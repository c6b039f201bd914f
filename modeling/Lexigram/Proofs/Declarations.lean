import Lexigram.Document
import Lexigram.Proofs.Respacing

/-!
# Declarations of rules

A declaration is taken apart into an id, perhaps attributes, and a body. Here is of which texts it
is put together, and what becomes of a document with a single rule in it.

**Forms of declarations** (`Document.Tail`, `Document.splitRule?_eq_some`). An id is a word that
begins like a name. Behind it and a gap stands a colon or the attributes.

**A document and a body** (`Document.read_single`). Documents have their own idea of where classes
end. As long as every class of a body is sealed, a document with that body declares one rule, which
has that body.
-/

namespace Lexigram

namespace Text

variable {c : Char} {s : List Char}

/-- A code point of a table is one of those that the stretches list. -/
theorem Stretch.exists_mem_numbers {n : Nat} {ss : List Stretch}
    (h : Stretch.anyContains n ss = true) : ∃ t ∈ ss, n ∈ t.numbers := by
  induction ss with
  | nil => cases h
  | cons t ss ih =>
    rw [anyContains] at h
    split at h
    · cases h
    · next hfirst =>
      split at h
      · next hlast =>
        rw [beq_iff_eq] at h
        refine ⟨t, List.mem_cons_self, List.mem_map.2 ⟨(n - t.first) / t.step, ?_, ?_⟩⟩
        · rw [List.mem_range]
          exact Nat.lt_succ_of_le (Nat.div_le_div_right (by omega))
        · have := Nat.div_mul_cancel (Nat.dvd_of_mod_eq_zero h)
          omega
      · obtain ⟨t', ht', hn⟩ := ih h
        exact ⟨t', List.mem_cons_of_mem _ ht', hn⟩

theorem isBlank_of_isWord (h : isWord c = true) : isBlank c = false := by
  have hblanks : ∀ t ∈ blankStretches, ∀ n ∈ t.numbers,
      wordTables.any (Stretch.anyContains n) = false := by
    decide +kernel
  by_contra hblank
  obtain ⟨t, ht, hc⟩ := Stretch.exists_mem_numbers (Bool.not_eq_false _ ▸ hblank)
  exact Bool.false_ne_true ((hblanks t ht _ hc).symm.trans h)

theorem not_isWord_of_isBlank (h : isBlank c = true) : isWord c = false := by
  by_contra hword
  rw [isBlank_of_isWord (by simpa using hword)] at h
  cases h

theorem isWord_of_isNameChar (h : Rule.isNameChar c = true) : isWord c = true := by
  have hwords : ∀ n < 128, 48 ≤ n ∧ n ≤ 57 ∨ 65 ≤ n ∧ n ≤ 90 ∨ 97 ≤ n ∧ n ≤ 122 ∨ n = 95 →
      wordTables.any (Stretch.anyContains n) = true := by
    decide +kernel
  simp only [Rule.isNameChar, Char.isAlphanum, Char.isAlpha, Char.isUpper, Char.isLower,
    Char.isDigit, Bool.or_eq_true, Bool.and_eq_true, decide_eq_true_eq, beq_iff_eq,
    UInt32.le_iff_toNat_le, ge_iff_le] at h
  have hrange : 48 ≤ c.toNat ∧ c.toNat ≤ 57 ∨ 65 ≤ c.toNat ∧ c.toNat ≤ 90 ∨
      97 ≤ c.toNat ∧ c.toNat ≤ 122 ∨ c.toNat = 95 := by
    rcases h with ((h | h) | h) | rfl
    · exact .inr (.inl h)
    · exact .inr (.inr (.inl h))
    · exact .inl h
    · exact .inr (.inr (.inr rfl))
  exact hwords c.toNat (by omega) hrange

/-- A text without blanks at its ends stays as it is. -/
theorem trim_eq_self (hhead : ∀ c ∈ s.head?, isBlank c = false)
    (hlast : ∀ c ∈ s.getLast?, isBlank c = false) : trim s = s := by
  have hends : ∀ t : List Char, (∀ c ∈ t.head?, isBlank c = false) → trimStart t = t := by
    intro t ht
    cases t with
    | nil => rfl
    | cons c t => exact trimStart_of_not_blank (ht c rfl) t
  rw [trim, hends s hhead, trimEnd]
  change (trimStart s.reverse).reverse = s
  rw [hends s.reverse (by simpa using hlast), List.reverse_reverse]

theorem not_blank_of_mem_getLast? (h : c ∈ (trim s).getLast?) : isBlank c = false := by
  rw [trim, trimEnd, List.getLast?_reverse] at h
  exact not_blank_of_mem_head? h

end Text

theorem Atom.forall_mem_flatten {P : Atom → Prop} {alternatives : List (List Atom)} :
    (∀ a ∈ flatten alternatives, P a) ↔
      ∀ atoms ∈ alternatives, ∀ a ∈ atoms, P a ∧ ∀ b ∈ flatten a.inner, P b := by
  induction alternatives with
  | nil => simp
  | cons atoms alternatives ih =>
    rw [flatten_chain, List.forall_mem_append, ih, List.forall_mem_cons]
    refine and_congr_left fun _ => ?_
    induction atoms with
    | nil => simp
    | cons a atoms ih =>
      rw [flatten_cons, List.forall_mem_cons, List.forall_mem_append, ih, List.forall_mem_cons,
        and_assoc]

namespace Document

/-! ## Forms of declarations -/

/-- A text that can be the id of a rule. -/
def IsId (id : List Char) : Prop :=
  ∃ c s, id = c :: s ∧ isNameStart c = true ∧ ∀ d ∈ s, Text.isWord d = true

/-- What stands behind the id of a rule: a colon and the body, or attributes in front of these. -/
inductive Tail : Option (List Char) → List Char → List Char → Prop
  | colon (body : List Char) : Tail none body (':' :: body)
  | braces {text braces body : List Char} (h : splitBraces? text = some (braces, body)) :
      Tail (some ('\x7b' :: braces)) body ('\x7b' :: text)

section Forms

variable {c : Char} {s t id gap tail body keyword : List Char} {attributes : Option (List Char)}
  {d : Declaration}

theorem IsId.of_isName (h : Rule.IsName id) : IsId id := by
  obtain ⟨c, s, rfl, hc, hs⟩ := h
  exact ⟨c, s, rfl, hc, fun d hd => Text.isWord_of_isNameChar (hs d hd)⟩

theorem isWord_of_isNameStart (h : isNameStart c = true) : Text.isWord c = true :=
  Text.isWord_of_isNameChar (Rule.isNameChar_of_isNameStart h)

theorem IsId.isWord (h : IsId id) : ∀ c ∈ id, Text.isWord c = true := by
  obtain ⟨c, s, rfl, hc, hs⟩ := h
  exact List.forall_mem_cons.2 ⟨isWord_of_isNameStart hc, hs⟩

theorem behindColon?_eq_some :
    behindColon? s = some body ↔
      ∃ gap, (∀ c ∈ gap, Text.isBlank c = true) ∧ s = gap ++ ':' :: body := by
  constructor
  · intro h
    obtain ⟨gap, hgap, hs⟩ := Text.exists_trimStart s
    unfold behindColon? at h
    split at h
    · next he =>
      cases h
      exact ⟨gap, hgap, he ▸ hs⟩
    · cases h
  · rintro ⟨gap, hgap, rfl⟩
    rw [behindColon?, Text.trimStart, List.dropWhile_append_of_pos hgap]
    rfl

theorem eq_of_splitBraces? {braces : List Char} (h : splitBraces? s = some (braces, body)) :
    ∃ gap, (∀ c ∈ gap, Text.isBlank c = true) ∧ s = braces ++ (gap ++ ':' :: body) := by
  fun_induction splitBraces? s generalizing braces with
  | case1 => cases h
  | case2 c s found hfound =>
    cases h
    split at hfound
    · obtain ⟨gap, hgap, rfl⟩ := behindColon?_eq_some.1 hfound
      exact ⟨gap, hgap, rfl⟩
    · cases hfound
  | case3 c s hfound ih =>
    obtain ⟨⟨front, back⟩, hback, he⟩ := Option.map_eq_some_iff.1 h
    cases he
    obtain ⟨gap, hgap, rfl⟩ := ih hback
    exact ⟨gap, hgap, rfl⟩

theorem Tail.head (h : Tail attributes body tail) :
    ∃ c t, tail = c :: t ∧ Text.isWord c = false ∧ Text.isBlank c = false := by
  cases h with
  | colon body => exact ⟨_, _, rfl, by decide +kernel⟩
  | braces h => exact ⟨_, _, rfl, by decide +kernel⟩

/-- What stands behind an id begins outside of words. -/
theorem Tail.not_word (h : Tail attributes body tail) (hgap : ∀ c ∈ gap, Text.isBlank c = true) :
    ∀ c ∈ (gap ++ tail).head?, Text.isWord c = false := by
  obtain ⟨c, t, rfl, hc, -⟩ := h.head
  intro d hd
  cases gap with
  | nil =>
    obtain rfl : c = d := by simpa using hd
    exact hc
  | cons e gap =>
    obtain rfl : e = d := by simpa using hd
    exact Text.not_isWord_of_isBlank (hgap e List.mem_cons_self)

theorem span_id (hid : ∀ c ∈ id, Text.isWord c = true)
    (hs : ∀ c ∈ s.head?, Text.isWord c = false) :
    (id ++ s).takeWhile Text.isWord = id ∧ (id ++ s).dropWhile Text.isWord = s := by
  rw [List.takeWhile_append_of_pos hid, List.dropWhile_append_of_pos hid]
  cases s with
  | nil => simp
  | cons c s =>
    have hc := hs c rfl
    simp [hc]

theorem trimStart_gap (hgap : ∀ c ∈ gap, Text.isBlank c = true) (hc : Text.isBlank c = false)
    (s : List Char) : Text.trimStart (gap ++ c :: s) = c :: s := by
  rw [Text.trimStart, List.dropWhile_append_of_pos hgap]
  exact Text.trimStart_of_not_blank hc s

/-- **A declaration is split** where it was put together. -/
theorem splitRule?_append (hid : IsId d.id) (hgap : ∀ c ∈ gap, Text.isBlank c = true)
    (htail : Tail d.attributes d.body tail) : splitRule? (d.id ++ (gap ++ tail)) = some d := by
  obtain ⟨id, attributes, body⟩ := d
  obtain ⟨c, s, rfl, hc, hs⟩ := hid
  obtain ⟨htake, hdrop⟩ := span_id hs (htail.not_word hgap)
  have htrim : Text.trimStart (gap ++ tail) = tail := by
    obtain ⟨e, t, rfl, -, he⟩ := htail.head
    exact trimStart_gap hgap he t
  rw [List.cons_append, splitRule?, if_pos hc]
  simp only [htake, hdrop, htrim]
  cases htail with
  | colon body => rfl
  | braces h => simp [h]

theorem splitRule?_eq_some (h : splitRule? s = some d) :
    ∃ gap tail, IsId d.id ∧ (∀ c ∈ gap, Text.isBlank c = true) ∧
      Tail d.attributes d.body tail ∧ s = d.id ++ (gap ++ tail) := by
  unfold splitRule? at h
  split at h
  · next c t =>
    split at h
    · next hc =>
      have hid : IsId (c :: t.takeWhile Text.isWord) :=
        ⟨c, _, rfl, hc, List.all_eq_true.1 List.all_takeWhile⟩
      obtain ⟨gap, hgap, ht⟩ := Text.exists_trimStart (t.dropWhile Text.isWord)
      have hs : ∀ tail, Text.trimStart (t.dropWhile Text.isWord) = tail →
          c :: t = c :: t.takeWhile Text.isWord ++ (gap ++ tail) := by
        rintro tail rfl
        rw [List.cons_append, ← ht, List.takeWhile_append_dropWhile]
      dsimp only at h
      split at h
      · next u hu =>
        obtain ⟨⟨braces, body⟩, hsplit, rfl⟩ := Option.map_eq_some_iff.1 h
        exact ⟨gap, _, hid, hgap, .braces hsplit, hs _ hu⟩
      · next body hbody =>
        cases h
        exact ⟨gap, _, hid, hgap, .colon body, hs _ hbody⟩
      · cases h
    · cases h
  · cases h

/-! ### Keywords -/

theorem behindKeyword?_append (hc : Text.isBlank c = true) (s : List Char) :
    behindKeyword? keyword (keyword ++ c :: s) = some (Text.trimStart s) := by
  simp [behindKeyword?, hc]

theorem behindKeyword?_eq_some (h : behindKeyword? keyword s = some t) :
    ∃ c gap, (∀ d ∈ c :: gap, Text.isBlank d = true) ∧ s = keyword ++ c :: (gap ++ t) := by
  unfold behindKeyword? at h
  split at h
  · next hprefix =>
    obtain ⟨rest, rfl⟩ := List.isPrefixOf_iff_prefix.1 hprefix
    rw [List.drop_left] at h
    split at h
    · next c rest =>
      split at h
      · next hc =>
        cases h
        obtain ⟨gap, hgap, hrest⟩ := Text.exists_trimStart rest
        exact ⟨c, gap, List.forall_mem_cons.2 ⟨hc, hgap⟩, by rw [← hrest]⟩
      · cases h
    · cases h
  · cases h

theorem isWord_of_mem_fragment : ∀ c ∈ "fragment".toList, Text.isWord c = true := by
  have hchars : "fragment".toList.all Rule.isNameChar = true := by decide
  exact fun c hc => Text.isWord_of_isNameChar (List.all_eq_true.1 hchars c hc)

/-- A declaration without the keyword is not mistaken for one with it. -/
theorem splitFragment?_eq_none (hid : IsId id) (hgap : ∀ c ∈ gap, Text.isBlank c = true)
    (htail : Tail attributes body tail) :
    (behindKeyword? "fragment".toList (id ++ (gap ++ tail))).bind splitRule? = none := by
  by_contra hne
  obtain ⟨d, hd⟩ := Option.ne_none_iff_exists'.1 hne
  obtain ⟨t, ht, hsplit⟩ := Option.bind_eq_some_iff.1 hd
  obtain ⟨c, gap', hgap', hs⟩ := behindKeyword?_eq_some ht
  obtain ⟨_, _, ⟨first, word, hfirst, hname, -⟩, -, -, rfl⟩ := splitRule?_eq_some hsplit
  have hc := Text.not_isWord_of_isBlank (hgap' c List.mem_cons_self)
  -- The words in front of the first blank are the same, so what follows them is the same.
  have hdrop := (span_id hid.isWord (htail.not_word hgap)).2
  rw [hs, (span_id isWord_of_mem_fragment (by simpa using hc)).2] at hdrop
  obtain ⟨e, tail, rfl, he, hblank⟩ := htail.head
  have hword := isWord_of_isNameStart hname
  have htrim := congrArg Text.trimStart hdrop
  rw [trimStart_gap hgap hblank, hfirst, ← List.cons_append, List.cons_append (a := first),
    trimStart_gap hgap' (Text.isBlank_of_isWord hword)] at htrim
  rw [(List.cons.inj htrim).1, he] at hword
  cases hword

/-- **A declaration with its keyword**, or without one. -/
theorem splitDeclaration?_append (hid : IsId d.id) (hgap : ∀ c ∈ gap, Text.isBlank c = true)
    (htail : Tail d.attributes d.body tail) (isFragment : Bool) :
    splitDeclaration? ((if isFragment then "fragment ".toList else []) ++ (d.id ++ (gap ++ tail))) =
      some (isFragment, d) := by
  have hsplit := splitRule?_append hid hgap htail
  cases isFragment with
  | false =>
    change splitDeclaration? (d.id ++ (gap ++ tail)) = _
    rw [splitDeclaration?, splitFragment?_eq_none hid hgap htail, hsplit]
    rfl
  | true =>
    obtain ⟨c, s, hs, hc, -⟩ := id hid
    have hstart : Text.trimStart (d.id ++ (gap ++ tail)) = d.id ++ (gap ++ tail) := by
      rw [hs]
      exact Text.trimStart_of_not_blank (Text.isBlank_of_isWord (isWord_of_isNameStart hc)) _
    have hkeyword : behindKeyword? "fragment".toList
        ("fragment ".toList ++ (d.id ++ (gap ++ tail))) = some (d.id ++ (gap ++ tail)) := by
      have hbehind : behindKeyword? "fragment".toList
          ("fragment".toList ++ ' ' :: (d.id ++ (gap ++ tail))) = _ :=
        behindKeyword?_append (by decide) _
      rwa [hstart] at hbehind
    rw [if_pos rfl, splitDeclaration?, hkeyword, Option.bind_some, hsplit]
    rfl

theorem splitDeclaration?_eq_some {isFragment : Bool} (h : splitDeclaration? s = some (isFragment, d)) :
    ∃ lead gap tail, (∀ c ∈ lead, Text.isWord c = true ∨ Text.isBlank c = true) ∧ IsId d.id ∧
      (∀ c ∈ gap, Text.isBlank c = true) ∧ Tail d.attributes d.body tail ∧
      s = lead ++ (d.id ++ (gap ++ tail)) := by
  unfold splitDeclaration? at h
  rcases Option.or_eq_some_iff.1 h with h | ⟨-, h⟩
  · obtain ⟨d', hd', he⟩ := Option.map_eq_some_iff.1 h
    cases he
    obtain ⟨t, ht, hsplit⟩ := Option.bind_eq_some_iff.1 hd'
    obtain ⟨c, lead, hlead, rfl⟩ := behindKeyword?_eq_some ht
    obtain ⟨gap, tail, hid, hgap, htail, rfl⟩ := splitRule?_eq_some hsplit
    refine ⟨"fragment".toList ++ c :: lead, gap, tail, ?_, hid, hgap, htail, by simp⟩
    refine List.forall_mem_append.2 ⟨fun d hd => .inl ?_, fun d hd => .inr (hlead d hd)⟩
    exact isWord_of_mem_fragment d hd
  · obtain ⟨d', hd', he⟩ := Option.map_eq_some_iff.1 h
    cases he
    obtain ⟨gap, tail, hid, hgap, htail, rfl⟩ := splitRule?_eq_some hd'
    exact ⟨[], gap, tail, by simp, hid, hgap, htail, rfl⟩

end Forms

/-! ## Documents of declarations -/

/-- The text of a statement that adds a rule to a document. -/
def Declares (s : List Char) (r : Definition) : Prop :=
  ∀ (line : Nat) (d : Document), addStatement d ⟨line, s⟩ = .ok { d with rules := d.rules ++ [r] }

section Declarations

variable {id gap tail lead : List Char} {d : Declaration} {r : Definition}

theorem Tail.mem_colon {attributes : Option (List Char)} {body : List Char}
    (h : Tail attributes body tail) : ':' ∈ tail := by
  cases h with
  | colon body => exact List.mem_cons_self
  | braces h =>
    obtain ⟨gap, -, rfl⟩ := eq_of_splitBraces? h
    simp

/-- What a declaration adds to a document is its definition. -/
theorem addStatement_append (hid : IsId d.id) (hgap : ∀ c ∈ gap, Text.isBlank c = true)
    (htail : Tail d.attributes d.body tail) (isFragment : Bool) (line : Nat) (document : Document) :
    addStatement document
        ⟨line, (if isFragment then "fragment ".toList else []) ++ (d.id ++ (gap ++ tail))⟩ =
      (d.toDefinition isFragment).map
        fun rule => { document with rules := document.rules ++ [rule] } := by
  have hcolon : ((if isFragment then "fragment ".toList else []) ++
      (d.id ++ (gap ++ tail))).contains ':' = true := by
    rw [List.contains_iff_mem]
    exact List.mem_append_right _ (List.mem_append_right _ (List.mem_append_right _ htail.mem_colon))
  rw [addStatement, hcolon, Bool.not_true, Bool.and_false, if_neg Bool.false_ne_true,
    splitDeclaration?_append hid hgap htail]
  rfl

theorem declares_of (hid : IsId d.id) (hgap : ∀ c ∈ gap, Text.isBlank c = true)
    (htail : Tail d.attributes d.body tail) (isFragment : Bool)
    (hr : d.toDefinition isFragment = .ok r) :
    Declares ((if isFragment then "fragment ".toList else []) ++ (d.id ++ (gap ++ tail))) r := by
  intro line document
  rw [addStatement_append hid hgap htail, hr]
  rfl

theorem foldlM_addStatement {sts : List Statement} {rules : List Definition}
    (h : List.Forall₂ Declares (sts.map Statement.text) rules) (d : Document) :
    sts.foldlM addStatement d = .ok { d with rules := d.rules ++ rules } := by
  induction sts generalizing rules d with
  | nil =>
    cases h
    rw [List.append_nil]
    rfl
  | cons st sts ih =>
    cases h with
    | cons hst hrest =>
      rw [List.foldlM_cons, hst st.line d]
      change sts.foldlM addStatement _ = _
      rw [ih hrest, List.append_assoc]
      rfl

theorem isInert_of_isGrammarName {name : List Char} (h : isGrammarName name = true) :
    ∀ c ∈ name, isInert c = true ∧ Text.isBlank c = false := by
  have hword : ∀ {c : Char}, Text.isWord c = true → isInert c = true ∧ Text.isBlank c = false :=
    fun hc => ⟨isInert_of_isWord hc, Text.isBlank_of_isWord hc⟩
  cases name with
  | nil => cases h
  | cons c s =>
    rw [isGrammarName, Bool.and_eq_true, List.all_eq_true] at h
    refine List.forall_mem_cons.2 ⟨hword (isWord_of_isNameStart h.1), fun d hd => ?_⟩
    have hd := h.2 d hd
    simp only [Bool.or_eq_true, beq_iff_eq] at hd
    rcases hd with (hd | rfl) | rfl
    · exact hword hd
    · decide
    · decide

theorem ne_nil_of_isGrammarName {name : List Char} (h : isGrammarName name = true) : name ≠ [] := by
  rintro rfl
  cases h

/-- The text in front of the semicolon of a header. -/
def header (name : String) : List Char := ("grammar " ++ name).toList

theorem header_eq (name : String) : header name = "grammar ".toList ++ name.toList :=
  String.toList_append

theorem trim_header {name : String} (h : isGrammarName name.toList = true) :
    Text.trim (header name) = header name := by
  have hhead : ∀ c ∈ (header name).head?, Text.isBlank c = false := by
    rw [header_eq]
    rintro c ⟨⟩
    decide
  refine Text.trim_eq_self hhead fun c hc => ?_
  rw [header_eq, List.getLast?_append_of_ne_nil _ (ne_nil_of_isGrammarName h)] at hc
  exact (isInert_of_isGrammarName h c (List.mem_of_getLast? hc)).2

theorem isStatement_header {name : String} (h : isGrammarName name.toList = true) :
    IsStatement (header name) := by
  have hidle : Idle ("grammar ".toList ++ name.toList) :=
    (Idle.inert (s := "grammar ".toList) (List.all_eq_true.1 (by decide))).append
      (.inert fun c hc => (isInert_of_isGrammarName h c hc).1)
  have hne : (Text.trim ('g' :: ("rammar ".toList ++ name.toList))).isEmpty = false :=
    Text.trim_ne_nil (by decide) _
  rw [header_eq]
  exact ⟨hne, {}, hidle {} (.inl rfl), .inl rfl, rfl, rfl⟩

/-- **A document is put together** from a header and the statements behind it. -/
theorem exists_read_lines {name : String} (hname : isGrammarName name.toList = true)
    {lines : List (List Char)} {blanks : List Char} (h : ∀ s ∈ lines, IsStatement s)
    (hblanks : ∀ c ∈ blanks, Text.isBlank c = true) :
    ∃ sts : List Statement, sts.map Statement.text = lines.map Text.trim ∧
      read ((header name :: lines).flatMap (· ++ [';']) ++ blanks) =
        sts.foldlM addStatement { name } := by
  obtain ⟨sts, hsts, htexts⟩ := splitFrom_statements (p := {}) ⟨rfl, rfl, rfl⟩
    (List.forall_mem_cons.2 ⟨isStatement_header hname, h⟩) hblanks
  cases sts with
  | nil => cases htexts
  | cons st sts =>
    obtain ⟨hheader, hlines⟩ := List.cons.inj htexts
    have hbehind : nameBehind? "grammar".toList st.text = some name := by
      have hstart : Text.trimStart name.toList = name.toList := by
        obtain ⟨c, s, hs⟩ := List.exists_cons_of_ne_nil (ne_nil_of_isGrammarName hname)
        rw [hs]
        refine Text.trimStart_of_not_blank (isInert_of_isGrammarName hname c ?_).2 s
        rw [hs]
        exact List.mem_cons_self
      have hkeyword : behindKeyword? "grammar".toList (header name) = some name.toList := by
        have hbehind : behindKeyword? "grammar".toList ("grammar".toList ++ ' ' :: name.toList) = _ :=
          behindKeyword?_append (by decide) _
        rw [hstart] at hbehind
        rw [header_eq]
        exact hbehind
      rw [hheader, trim_header hname, nameBehind?, hkeyword, Option.bind_some, if_pos hname,
        String.ofList_toList]
    refine ⟨sts, hlines, ?_⟩
    rw [read, statements, hsts]
    change ofStatements (st :: sts) = _
    rw [ofStatements, hbehind]

/-- **A document of declarations** has the rules that these declare. -/
theorem read_declarations {name : String} (hname : isGrammarName name.toList = true)
    {lines : List (List Char)} {rules : List Definition} {blanks : List Char}
    (h : ∀ s ∈ lines, IsStatement s) (hrules : List.Forall₂ Declares (lines.map Text.trim) rules)
    (hblanks : ∀ c ∈ blanks, Text.isBlank c = true) :
    read ((header name :: lines).flatMap (· ++ [';']) ++ blanks) = .ok { name, rules } := by
  obtain ⟨sts, htexts, hread⟩ := exists_read_lines hname h hblanks
  rw [hread]
  exact foldlM_addStatement (htexts ▸ hrules) _

end Declarations

/-! ## A document with a single rule -/

section Single

open Rule (readBody)
open Atom (flatten)

variable {id : String} {cap base : Nat} {body : List Char} {alternatives : List (List Atom)}

/-- The run over a body without commands and semicolons comes back to where it was, as long as its
classes are sealed. -/
theorem run_body (hcap : cap ≤ Quantifier.unbounded)
    (h : (readBody id cap base body).result = .ok (alternatives, none))
    (hsemicolon : Outline.splitTop id Outline.isSemicolon 0 0 body = .ok none)
    (hsealed : ∀ a ∈ flatten alternatives, a.isSealed = true) :
    run {} body = some {} ∧ (Text.trim body).isEmpty = false := by
  obtain ⟨-, hspelled⟩ := Rule.readBody_spelled hcap h
  obtain ⟨text, front, read, htext, hfront, hne, hread, rfl⟩ := Rule.readBody_eq_ok.1 h
  obtain rfl : text = body := by
    rcases Rule.splitTerminator_eq_ok htext with ⟨-, rfl⟩ | ⟨back, hsome, -⟩
    · rfl
    · rw [hsemicolon] at hsome
      cases hsome
  obtain rfl : front = text := by
    rcases Rule.splitCommand_eq_ok hfront with ⟨-, rfl, -⟩ | ⟨back, c, -, -, hc⟩
    · rfl
    · cases hc
  rw [(alike_render hread).run_eq {} (.inl rfl)]
  exact ⟨level_renderAlternatives _ hspelled hsealed 0, hne⟩

/-- **Documents and bodies agree on where a body ends** if they agree on where its classes do. -/
theorem read_single (hid : Rule.IsName id.toList) (hcap : cap ≤ Quantifier.unbounded)
    (h : (readBody id cap base body).result = .ok (alternatives, none))
    (hsemicolon : Outline.splitTop id Outline.isSemicolon 0 0 body = .ok none)
    (hsealed : ∀ a ∈ flatten alternatives, a.isSealed = true) :
    read ("grammar G; ".toList ++ id.toList ++ ": ".toList ++ body ++ [';']) =
      .ok { name := "G", rules := [{ id, body := String.ofList (Text.trim body) }] } := by
  obtain ⟨hrun, hne⟩ := run_body hcap h hsemicolon hsealed
  have hisId := IsId.of_isName hid
  obtain ⟨front, back, hfront, hback, hbody⟩ := Text.exists_trim body
  let declaration : Declaration := ⟨id.toList, none, ' ' :: (front ++ Text.trim body)⟩
  have hdefinition : declaration.toDefinition false =
      .ok { id, body := String.ofList (Text.trim body) } := by
    have htrim : Text.trim declaration.body = Text.trim body := by
      rw [show declaration.body = (' ' :: front) ++ Text.trim body from rfl,
        Text.trim_blank_append (List.forall_mem_cons.2 ⟨by decide, hfront⟩), Text.trim_trim]
    rw [Declaration.toDefinition, htrim, String.ofList_toList]
    rfl
  have hdeclares := @declares_of [] _ declaration _ hisId (by simp) (.colon _) false hdefinition
  -- The line of the rule, with the blanks at its ends.
  let core := id.toList ++ ':' :: ' ' :: (front ++ Text.trim body)
  have hline : ' ' :: (id.toList ++ ':' :: ' ' :: body) = [' '] ++ (core ++ back) := by
    conv_lhs => rw [hbody]
    simp [core]
  have htrim : Text.trim (' ' :: (id.toList ++ ':' :: ' ' :: body)) = core := by
    rw [hline, Text.trim_blank_append (List.all_eq_true.1 (by decide)),
      Text.trim_append_blank hback]
    refine Text.trim_eq_self ?_ ?_
    · obtain ⟨c, s, hs, hc, -⟩ := hisId
      rintro d hd
      obtain rfl : c = d := by simpa [core, hs] using hd
      exact Text.isBlank_of_isWord (isWord_of_isNameStart hc)
    · intro d hd
      refine Text.not_blank_of_mem_getLast? (s := body) ?_
      have hne : Text.trim body ≠ [] := by simpa using hne
      have hcore : core = (id.toList ++ ':' :: ' ' :: front) ++ Text.trim body := by simp [core]
      rwa [hcore, List.getLast?_append_of_ne_nil _ hne] at hd
  have hstatement : IsStatement (' ' :: (id.toList ++ ':' :: ' ' :: body)) := by
    refine ⟨?_, {}, ?_, .inl rfl, rfl, rfl⟩
    · rw [htrim]
      simp [core]
    · have hidle : Idle (' ' :: (id.toList ++ [':', ' '])) :=
        .inert (List.forall_mem_cons.2 ⟨by decide, List.forall_mem_append.2
          ⟨fun c hc => isInert_of_isWord (hisId.isWord c hc), List.all_eq_true.1 (by decide)⟩⟩)
      have hsplit : ' ' :: (id.toList ++ ':' :: ' ' :: body) =
          ' ' :: (id.toList ++ [':', ' ']) ++ body := by
        simp
      rw [hsplit, run_append_of (hidle {} (.inl rfl)), hrun]
  have hread : read ((header "G" :: [' ' :: (id.toList ++ ':' :: ' ' :: body)]).flatMap (· ++ [';']) ++
      []) = .ok { name := "G", rules := [{ id, body := String.ofList (Text.trim body) }] } :=
    read_declarations (by decide) (by simpa using hstatement) (.cons (htrim ▸ hdeclares) .nil)
      (by simp)
  have hsrc : "grammar G; ".toList ++ id.toList ++ ": ".toList ++ body ++ [';'] =
      (header "G" :: [' ' :: (id.toList ++ ':' :: ' ' :: body)]).flatMap (· ++ [';']) ++ [] := by
    rw [show "grammar G; ".toList = header "G" ++ [';', ' '] by decide,
      show ": ".toList = [':', ' '] from rfl]
    simp
  rw [hsrc, hread]

/-- Literals and a class with signs in them, in a group and outside of it. -/
theorem read_single_of_signs :
    let body := " ';' ([]/*(] | '\x22')* ".toList
    ∃ alternatives,
      (readBody "A" Quantifier.unbounded 2 body).result = .ok (alternatives, none) ∧
      (∀ a ∈ flatten alternatives, a.isSealed = true) ∧
      read ("grammar G; ".toList ++ "A".toList ++ ": ".toList ++ body ++ [';']) =
        .ok { name := "G", rules := [{ id := "A", body := String.ofList (Text.trim body) }] } := by
  intro body
  have hread : (readBody "A" Quantifier.unbounded 2 body).result.map (fun read =>
      read.2.isNone && read.1.all fun atoms => atoms.all fun a => a.isSealed &&
        a.inner.all fun atoms => atoms.all fun b => b.isSealed && b.inner.isEmpty) = .ok true := by
    decide +kernel
  cases h : (readBody "A" Quantifier.unbounded 2 body).result with
  | error e => rw [h] at hread; cases hread
  | ok read =>
    rw [h] at hread
    obtain ⟨alternatives, command⟩ := read
    have hread := Except.ok.inj hread
    simp only [Bool.and_eq_true, List.all_eq_true, List.isEmpty_iff, Option.isNone_iff_eq_none]
      at hread
    obtain ⟨rfl, hatoms⟩ := hread
    have hsealed : ∀ a ∈ flatten alternatives, a.isSealed = true := by
      refine Atom.forall_mem_flatten.2 fun atoms hall a ha => ?_
      obtain ⟨ha, hinner⟩ := hatoms atoms hall a ha
      refine ⟨ha, Atom.forall_mem_flatten.2 fun others hothers b hb => ?_⟩
      obtain ⟨hb, hempty⟩ := hinner others hothers b hb
      rw [hempty, Atom.flatten_nil]
      exact ⟨hb, by simp⟩
    exact ⟨alternatives, rfl, hsealed, read_single
      (by exact ⟨'A', [], rfl, by decide, by simp⟩) (Nat.le_refl _) h (by decide +kernel) hsealed⟩

/-- A bracket behind the caret of a class stands for itself in a body, and in a document it ends the
class. -/
theorem not_read_single_of_caret :
    ∃ alternatives,
      (readBody "A" Quantifier.unbounded 2 "[^];]".toList).result = .ok (alternatives, none) ∧
      Outline.splitTop "A" Outline.isSemicolon 0 0 "[^];]".toList = .ok none ∧
      read ("grammar G; ".toList ++ "A".toList ++ ": ".toList ++ "[^];]".toList ++ [';']) =
        .error (.malformedDeclaration 1 .ruleExpected) := by
  have hread : (readBody "A" Quantifier.unbounded 2 "[^];]".toList).result.map Prod.snd =
      .ok none := by
    decide +kernel
  cases h : (readBody "A" Quantifier.unbounded 2 "[^];]".toList).result with
  | error e => rw [h] at hread; cases hread
  | ok read =>
    rw [h] at hread
    obtain ⟨alternatives, command⟩ := read
    obtain rfl : command = none := Except.ok.inj hread
    exact ⟨alternatives, rfl, by decide +kernel, by decide +kernel⟩

end Single

end Document

end Lexigram
