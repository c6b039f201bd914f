import Lexigram.Proofs.OffsetOutlines
import Lexigram.Proofs.Spelling

/-!
# Readers of atoms by offsets

The readers of atoms once more, on offsets into the bytes of a rule body. Every byte that they look
at and every piece that they cut out has to be there.

**Readers** (`Reads`, `Opens`). Each reader tracks the reader of characters: the offset behind what
it has read is where the characters begin that are left. The inside of a group lies between the
offsets of its parentheses.

**Progress.** A reader that leaves fewer characters than it was given ends at a greater offset
(`Spans.lt_of_length_lt`).

Main results: `Offsets.readOpening_tracks`, `Offsets.readQuantifier_tracks` and
`Offsets.readEndAnchor_tracks`.
-/

namespace Lexigram

open Text (byte? slice? byteLength byteLength_append byteLength_cons byteLength_nil IsWide)

namespace Spans

variable {src s t : List Char} {i j k : Nat}

/-- Of two texts that end at the same offset, the shorter one is what is left of the other. -/
theorem exists_append (h : Spans src i j s) (h' : Spans src k j t) (hl : t.length ≤ s.length) :
    ∃ u, s = u ++ t ∧ Spans src i k u := by
  obtain ⟨f, b, rfl, rfl, rfl⟩ := spans_iff.1 h
  obtain ⟨f', b', heq, rfl, hj⟩ := spans_iff.1 h'
  rw [← List.append_assoc, ← List.append_assoc] at heq
  have hextent : Readable.extent (f ++ s) = Readable.extent (f' ++ t) := by
    simp only [Readable.extent_chars, byteLength_append]
    exact hj
  obtain ⟨hfront, -⟩ := eq_of_extent_eq heq hextent
  rcases List.append_eq_append_iff.1 hfront with ⟨u, rfl, rfl⟩ | ⟨u, rfl, rfl⟩
  · exact ⟨u, rfl, spans_iff.2 ⟨f, t ++ b, by simp, rfl, by simp⟩⟩
  · obtain rfl : u = [] := by simpa using hl
    exact ⟨[], rfl, by simpa using h.boundary_start.spans_nil⟩

theorem lt_of_length_lt (h : Spans src i j s) (h' : Spans src k j t) (hl : t.length < s.length) :
    i < k := by
  obtain ⟨u, rfl, hu⟩ := h.exists_append h' (Nat.le_of_lt hl)
  cases u with
  | nil => simp at hl
  | cons c u => exact hu.lt

/-- What was read of a text is the text up to the offset of what is left. -/
theorem readPart (h : Spans src i j s) (h' : Spans src k j t) (hl : t.length ≤ s.length) :
    Spans src i k (Rule.readPart s t) := by
  obtain ⟨u, rfl, hu⟩ := h.exists_append h' hl
  rwa [Rule.readPart_append]

end Spans

namespace Offsets

open Guarded (Tracks demand stuck)
open Rule (Region Head)

/-! ## Leaves -/

/-- Refuses the body for a fault at an offset. -/
def refuse {α : Type} (r : Region) (pos : Nat) (fault : BodyFault) : Guarded α :=
  .fail (.malformedBody r.rule pos fault)

/-- Whether there is a certain byte at an offset in front of the end. -/
def isByte (src : List Char) (stop i : Nat) (d : Char) : Option Bool :=
  if i < stop then (byte? src i).map (· == d) else some false

/-- The number below, if there is one. -/
def pred? : Nat → Option Nat
  | 0 => none
  | n + 1 => some n

/-- Reads the text of a literal. -/
def readQuoted (src : List Char) (r : Region) (pos : Nat) : Guarded (List Char × Nat) := do
  let after ← skipQuoted src r.rule r.stop pos
  let close ← demand (pred? after)
  let inside ← demand (slice? src (pos + 1) close)
  Guarded.warn (Rule.escapeWarnings r.rule (pos + 1) inside)
  pure (Literal.unescape inside, close + 1)

/-- Reads on in a range behind its dots. -/
def readRange (src : List Char) (r : Region) (pos : Nat) (text : List Char) (look : Nat) :
    Guarded (Leaf × Nat) := do
  let second ← demand (skipWhile src Text.isAsciiBlank r.stop look)
  let quoted ← demand (isByte src r.stop second '\x27')
  if quoted then do
    let (upper, after) ← readQuoted src r second
    match text, upper with
    | [lo], [hi] =>
      match Pattern.range? lo hi with
      | some p => do
        let value ← demand (slice? src pos after)
        pure (⟨.literal, value, p, false⟩, after)
      | none => .fail (.invalidExpression r.rule (String.ofList (Pattern.rangeSource lo hi)))
    | _, _ => refuse r pos .boundsNotSingle
  else refuse r second .literalExpectedAfterRange

/-- Reads a literal or a range. -/
def readLiteral (src : List Char) (r : Region) (pos : Nat) : Guarded (Leaf × Nat) := do
  let (text, after) ← readQuoted src r pos
  if text.isEmpty then refuse r pos .emptyLiteral
  else do
    let look ← demand (skipWhile src Text.isAsciiBlank r.stop after)
    let left ← demand (slice? src look r.stop)
    if ['.', '.'].isPrefixOf left then readRange src r pos text (look + 2)
    else
      match Pattern.literal? text with
      | some p => do
        let value ← demand (slice? src pos after)
        pure (⟨.literal, value, p, false⟩, after)
      | none => .fail (.invalidExpression r.rule (String.ofList (Pattern.escape text)))

/-- Reads a class or a dot, as the source of its pattern. -/
def readClass (src : List Char) (r : Region) (start pos : Nat) : Guarded (List Char × Nat) :=
  if pos < r.stop ∧ byte? src pos = some '[' then do
    let close ← skipClass src r.rule r.stop pos
    let body ← demand (slice? src pos close)
    pure (body, close)
  else if pos < r.stop ∧ byte? src pos = some '.' then pure (Pattern.anySource, pos + 1)
  else refuse r start .classExpectedAfterAnchor

/-- Reads a class or a dot with the anchors around it. -/
def readExpression (src : List Char) (r : Region) (start : Nat) : Guarded (Leaf × Nat) := do
  let first ← demand (byte? src start)
  let anchor := if first = '^' then ['^'] else []
  let (body, after) ← readClass src r start (start + anchor.length)
  let dollar ← demand (isByte src r.stop after '$')
  let after := if dollar then after + 1 else after
  let value ← demand (slice? src start after)
  match Pattern.ofSource? (anchor ++ body) with
  | some p => pure (⟨.expression, value, p, dollar⟩, after)
  | none => .fail (.invalidExpression r.rule (String.ofList (anchor ++ body)))

/-! ## Atoms -/

/-- What is read of an atom up to its quantifier. -/
structure Opening where
  inverted : Bool
  head : Head
  inside : List Char
  /-- Where the inside of a group begins and where it ends. -/
  bounds : Option (Nat × Nat)
  after : Nat

/-- Reads a group whose inside begins at the offset `inner`. -/
def readGroup (src : List Char) (r : Region) (inverted : Bool) (pos inner : Nat) (lookahead : Bool)
    (fault : BodyFault) : Guarded Opening := do
  match ← closingParen src r.rule r.stop 0 pos with
  | some close => do
    let inside ← demand (slice? src inner close)
    if (Text.trim inside).isEmpty then refuse r pos fault
    else pure ⟨inverted, .group lookahead, inside, some (inner, close), close + 1⟩
  | none => .fail (.unmatchedParenthesis r.rule pos)

/-- Reads an atom without its mark of inversion. -/
def readHead (src : List Char) (r : Region) (inverted : Bool) (start pos : Nat) :
    Guarded Opening := do
  let b ← demand (byte? src pos)
  if b = '\x27' then do
    let (l, after) ← readLiteral src r pos
    pure ⟨inverted, .leaf l, [], none, after⟩
  else if b = '^' ∨ b = '[' ∨ b = '.' then do
    let (l, after) ← readExpression src r pos
    pure ⟨inverted, .leaf l, [], none, after⟩
  else if b = '(' then do
    let left ← demand (slice? src pos r.stop)
    if ['(', '?', '!'].isPrefixOf left then
      if inverted then refuse r start .invertedLookahead
      else readGroup src r inverted pos (pos + 3) true .emptyLookahead
    else readGroup src r inverted pos (pos + 1) false .emptyGroup
  else if b = ')' then .fail (.unmatchedParenthesis r.rule pos)
  else if Rule.isNameStart b then do
    let after ← demand (skipWhile src Rule.isNameChar r.stop pos)
    let name ← demand (slice? src pos after)
    pure ⟨inverted, .reference name, [], none, after⟩
  else refuse r pos .unexpectedCharacter

/-- Reads an atom up to its quantifier. -/
def readOpening (src : List Char) (r : Region) (start : Nat) : Guarded Opening := do
  let b ← demand (byte? src start)
  if b = '~' then do
    let pos ← demand (skipWhile src Text.isAsciiBlank r.stop (start + 1))
    if pos < r.stop then readHead src r true start pos else refuse r start .atomExpectedAfterTilde
  else readHead src r false start start

/-- Reads the quantifier of an atom, if there is one. -/
def readQuantifier (src : List Char) (r : Region) (pos : Nat) : Guarded (Quantifier × Nat) :=
  if pos < r.stop then do
    let b ← demand (byte? src pos)
    if b = '*' ∨ b = '+' ∨ b = '?' ∨ b = '\x7b' then do
      let left ← demand (slice? src pos r.stop)
      match Quantifier.read? r.cap left with
      | some (q, rest) => pure (q, pos + (byteLength left - byteLength rest))
      | none => refuse r pos .invalidQuantifier
    else pure (.once, pos)
  else pure (.once, pos)

/-- Reads the dollar sign that may stand behind the quantifier of an expression. -/
def readEndAnchor (src : List Char) (r : Region) (head : Head) (pos : Nat) :
    Guarded (Head × Nat) :=
  match head with
  | .leaf ⟨.expression, value, pattern, false⟩ => do
    let dollar ← demand (isByte src r.stop pos '$')
    if dollar then pure (.leaf ⟨.expression, value ++ ['$'], pattern, true⟩, pos + 1)
    else pure (head, pos)
  | _ => pure (head, pos)

/-! ## Readers track readers -/

/-- What two readers have read is the same, and the offset behind it is where the characters begin
that are left. -/
def Reads {α : Type} (src : List Char) (stop : Nat) (p : α × Nat) (q : α × List Char) : Prop :=
  p.1 = q.1 ∧ Spans src p.2 stop q.2

section Readers

variable {src s t : List Char} {rule : String} {r : Region} {stop pos i : Nat} {b c : Char}

theorem offset_eq (h : Spans src pos r.stop s) : r.offset s = pos := by
  have hstop := h.stop_eq_add
  rw [Region.offset]
  omega

theorem refuse_tracks {α β : Type} {R : β → α → Prop} {fault : BodyFault}
    (h : Spans src pos r.stop s) : Tracks src R (refuse r pos fault) (r.fail s fault) := by
  rw [Region.fail, offset_eq h]
  exact Tracks.fail (inside_of_boundary h.boundary_start rfl)

theorem skipBlanks_spans (h : Spans src pos stop s) :
    ∃ next, skipWhile src Text.isAsciiBlank stop pos = some next ∧
      Spans src next stop (Rule.skipBlanks s) := by
  obtain ⟨next, hnext, -, hleft⟩ := skipWhile_spans (fun _ => isAsciiBlank_of_isWide) h
  exact ⟨next, hnext, hleft⟩

theorem isByte_eq {d : Char} (h : Spans src i stop s) (hd : ¬IsWide d) :
    isByte src stop i d = some (s.head? == some d) := by
  cases s with
  | nil =>
    obtain rfl : stop = i := h.stop_eq_add
    rw [isByte, if_neg (Nat.lt_irrefl _)]
    rfl
  | cons c s =>
    obtain ⟨b, hb, hlike⟩ := h.exists_byte?
    rw [isByte, if_pos h.lt, hb, Option.map_some, List.head?_cons]
    simp [Bool.beq_eq_decide_eq, hlike.eq_iff hd]

/-! ### Literals -/

theorem escapes_span {offset close : Nat} {inside : List Char} (h : Spans src offset close inside) :
    ∀ p ∈ Literal.unknownEscapes offset inside, Spans src p.1 (p.1 + p.2.utf8Size) [p.2] := by
  fun_induction Literal.unknownEscapes offset inside with
  | case1 | case2 => simp
  | case3 offset c s rest hc ih =>
    exact ih (Nat.add_assoc .. ▸ (h.tail_narrow (by decide)).tail)
  | case4 offset c s rest hc ih =>
    have hinside := h.tail_narrow (by decide)
    intro p hp
    rcases List.mem_cons.1 hp with rfl | hp
    · exact hinside.take (u := [c])
    · exact ih hinside.tail p hp
  | case5 offset c s hnil hesc ih => exact ih h.tail

theorem escapeWarnings_inside {offset close : Nat} {inside : List Char}
    (h : Spans src offset close inside) :
    ∀ d ∈ Rule.escapeWarnings rule offset inside, d.span.Inside src := by
  intro d hd
  obtain ⟨p, hp, rfl⟩ := List.mem_map.1 hd
  exact (escapes_span h p hp).inside

theorem readQuoted_tracks (h : Spans src pos r.stop ('\x27' :: s)) :
    Tracks src (Reads src r.stop) (readQuoted src r pos) (Rule.readQuoted r ('\x27' :: s)) := by
  have hinside := h.tail_narrow (by decide)
  rw [Rule.readQuoted, List.drop_succ_cons, List.drop_zero, readQuoted, skipQuoted_eq h,
    offset_eq h]
  cases hsplit : Literal.split? '\x27' s with
  | none => exact Tracks.fail (inside_of_boundary h.boundary_start rfl)
  | some split =>
    obtain ⟨inside, rest⟩ := split
    rw [Literal.eq_of_split? hsplit] at hinside
    dsimp only [closedAt]
    rw [Guarded.pure_bind]
    refine Tracks.demand rfl (Tracks.demand (Text.slice?_eq_some.2 hinside.take) ?_)
    refine Tracks.warn (escapeWarnings_inside hinside.take) (Tracks.pure ⟨rfl, ?_⟩)
    exact hinside.drop.tail_narrow (by decide)

theorem readRange_tracks {look : Nat} {text : List Char} (h : Spans src pos r.stop s)
    (ht : Spans src look r.stop t) (hl : t.length < s.length) :
    Tracks src (Reads src r.stop) (readRange src r pos text look)
      (if (Rule.skipBlanks t).head? = some '\x27' then do
        let (upper, rest) ← Rule.readQuoted r (Rule.skipBlanks t)
        match text, upper with
        | [lo], [hi] =>
          match Pattern.range? lo hi with
          | some p => pure (⟨.literal, Rule.readPart s rest, p, false⟩, rest)
          | none => .fail (.invalidExpression r.rule (String.ofList (Pattern.rangeSource lo hi)))
        | _, _ => r.fail s .boundsNotSingle
      else r.fail (Rule.skipBlanks t) .literalExpectedAfterRange) := by
  obtain ⟨second, hsecond, hleft⟩ := skipBlanks_spans ht
  have hblanks := Rule.length_skipBlanks t
  refine Tracks.demand hsecond (Tracks.demand (isByte_eq hleft (by decide)) ?_)
  by_cases hquote : (Rule.skipBlanks t).head? = some '\x27'
  · rw [if_pos hquote, if_pos (by simpa using hquote)]
    obtain ⟨u, hu⟩ := List.head?_eq_some_iff.1 hquote
    rw [hu] at hleft hblanks ⊢
    refine (readQuoted_tracks hleft).bind ?_
    rintro ⟨upper, after⟩ ⟨upper', rest⟩ hok ⟨rfl, hrest⟩
    have hlength := Rule.length_readQuoted hok
    dsimp only at hrest hlength ⊢
    split
    · split
      · refine Tracks.demand (Text.slice?_eq_some.2 (h.readPart hrest (by omega))) ?_
        exact Tracks.pure ⟨rfl, hrest⟩
      · exact Tracks.fail (inside_of_none rfl)
    · exact refuse_tracks h
  · rw [if_neg hquote, if_neg (by simpa using hquote)]
    exact refuse_tracks hleft

theorem readLiteral_tracks (h : Spans src pos r.stop ('\x27' :: s)) :
    Tracks src (Reads src r.stop) (readLiteral src r pos) (Rule.readLiteral r ('\x27' :: s)) := by
  unfold readLiteral Rule.readLiteral
  refine (readQuoted_tracks h).bind ?_
  rintro ⟨text, after⟩ ⟨text', rest⟩ hok ⟨rfl, hrest⟩
  have hlength := Rule.length_readQuoted hok
  have hblanks := Rule.length_skipBlanks rest
  dsimp only at hrest hlength ⊢
  split
  · exact refuse_tracks h
  · obtain ⟨look, hlook, hleft⟩ := skipBlanks_spans hrest
    refine Tracks.demand hlook (Tracks.demand (Text.slice?_eq_some.2 hleft) ?_)
    by_cases hdots : ['.', '.'].isPrefixOf (Rule.skipBlanks rest) = true
    · obtain ⟨t, ht⟩ : ∃ t, Rule.skipBlanks rest = '.' :: '.' :: t := by
        obtain ⟨t, ht⟩ := List.isPrefixOf_iff_prefix.1 hdots
        exact ⟨t, ht.symm⟩
      rw [if_pos hdots]
      rw [ht] at hleft hblanks ⊢
      have hbehind := (hleft.tail_narrow (by decide)).tail_narrow (by decide)
      simp only [List.length_cons] at hblanks
      exact readRange_tracks h hbehind (by simp only [List.length_cons] at hlength ⊢; omega)
    · have hnone : ∀ t, Rule.skipBlanks rest ≠ '.' :: '.' :: t := by
        intro t ht
        rw [ht] at hdots
        exact hdots rfl
      rw [if_neg hdots]
      cases Pattern.literal? text with
      | none =>
        dsimp only
        split
        · next t ht => exact absurd ht (hnone t)
        · exact Tracks.fail (inside_of_none rfl)
      | some p =>
        dsimp only
        split
        · next t ht => exact absurd ht (hnone t)
        · refine Tracks.demand (Text.slice?_eq_some.2 (h.readPart hrest (by omega))) ?_
          exact Tracks.pure ⟨rfl, hrest⟩

/-! ### Expressions -/

theorem readClass_tracks (h : Spans src i r.stop s) (ht : Spans src pos r.stop t) :
    Tracks src (Reads src r.stop) (readClass src r i pos) (Rule.splitClassSource r s t) := by
  unfold readClass
  cases t with
  | nil =>
    obtain rfl : r.stop = pos := ht.stop_eq_add
    rw [if_neg fun h => Nat.lt_irrefl _ h.1, if_neg fun h => Nat.lt_irrefl _ h.1]
    exact refuse_tracks h
  | cons c u =>
    simp only [ht.lt, true_and, ht.byte?_eq_some_iff (d := '[') (by decide),
      ht.byte?_eq_some_iff (d := '.') (by decide)]
    by_cases hclass : c = '['
    · subst hclass
      have hinside := ht.tail_narrow (by decide)
      rw [if_pos rfl, skipClass_eq ht, Rule.splitClassSource, offset_eq ht]
      cases hsplit : Outline.splitClass? u with
      | none => exact Tracks.fail (inside_of_boundary ht.boundary_start rfl)
      | some split =>
        obtain ⟨inside, rest⟩ := split
        have hu : '[' :: u = ('[' :: inside ++ [']']) ++ rest := by
          rw [Outline.eq_of_splitClass? hsplit]
          simp
        have hclose : pos + byteLength ('[' :: inside ++ [']']) =
            pos + 1 + byteLength inside + 1 := by
          simp [Text.utf8Size_of_not_wide (c := '[') (by decide),
            Text.utf8Size_of_not_wide (c := ']') (by decide), Nat.add_assoc]
        rw [hu] at ht
        dsimp only [closedAt]
        rw [Guarded.pure_bind, ← hclose]
        exact Tracks.demand (Text.slice?_eq_some.2 ht.take) (Tracks.pure ⟨rfl, ht.drop⟩)
    · by_cases hdot : c = '.'
      · subst hdot
        rw [if_neg hclass, if_pos rfl]
        exact Tracks.pure ⟨rfl, ht.tail_narrow (by decide)⟩
      · rw [if_neg hclass, if_neg hdot]
        have hrefused : Rule.splitClassSource r s (c :: u) = r.fail s .classExpectedAfterAnchor := by
          simp [Rule.splitClassSource, hclass, hdot]
        rw [hrefused]
        exact refuse_tracks h

theorem readDollar_eq (h : Spans src i stop s) :
    isByte src stop i '$' = some (Rule.readDollar s).1 ∧
      Spans src (if (Rule.readDollar s).1 then i + 1 else i) stop (Rule.readDollar s).2 := by
  rw [isByte_eq h (by decide)]
  unfold Rule.readDollar
  split
  · exact ⟨rfl, h.tail_narrow (by decide)⟩
  · next hs =>
    refine ⟨?_, h⟩
    cases s with
    | nil => rfl
    | cons c s =>
      have hc : c ≠ '$' := fun hc => hs s (by rw [hc])
      simpa using hc

theorem readExpression_tracks (h : Spans src pos r.stop (c :: s)) :
    Tracks src (Reads src r.stop) (readExpression src r pos)
      (Rule.readExpression r (c :: s)) := by
  obtain ⟨b, hb, hlike⟩ := h.exists_byte?
  unfold readExpression Rule.readExpression
  refine Tracks.demand hb ?_
  have hanchor : (if b = '^' then ['^'] else []) =
      if (c :: s).head? = some '^' then ['^'] else [] := by
    simp only [hlike.eq_iff (d := '^') (by decide), List.head?_cons, Option.some.injEq]
  rw [hanchor]
  generalize hmark : (if (c :: s).head? = some '^' then ['^'] else []) = anchor
  have hcore : Spans src (pos + anchor.length) r.stop ((c :: s).drop anchor.length) := by
    subst hmark
    split
    · next hc =>
      obtain rfl : c = '^' := by simpa using hc
      exact h.tail_narrow (by decide)
    · exact h
  dsimp only
  refine (readClass_tracks h hcore).bind ?_
  rintro ⟨body, after⟩ ⟨body', rest⟩ hok ⟨rfl, hrest⟩
  have hlength := Rule.length_splitClassSource hok
  have hdollar := Rule.length_readDollar rest
  obtain ⟨hbyte, hleft⟩ := readDollar_eq hrest
  dsimp only at hlength hleft ⊢
  simp only [List.length_drop] at hlength
  refine Tracks.demand hbyte ?_
  refine Tracks.demand (Text.slice?_eq_some.2 (h.readPart hleft (by omega))) ?_
  cases Pattern.ofSource? (anchor ++ body) with
  | none => exact Tracks.fail (inside_of_none rfl)
  | some p => exact Tracks.pure ⟨rfl, hleft⟩

/-! ### Atoms -/

/-- What two readers have read of an atom is the same, and the inside of a group lies between its
parentheses. -/
structure Opens (src : List Char) (stop pos : Nat) (o : Opening) (o' : Rule.Opening) : Prop where
  inverted : o.inverted = o'.inverted
  head : o.head = o'.head
  inside : o.inside = o'.inside
  after : Spans src o.after stop o'.rest
  bounds : match o.bounds with
    | none => o'.head.isGroup = false
    | some (first, close) => o'.head.isGroup = true ∧ Spans src first close o'.inside ∧
        pos < first ∧ close + 1 = o.after

theorem closingParen_open (h : Spans src pos r.stop ('(' :: t)) :
    closingParen src rule r.stop 0 pos = closingParen src rule r.stop 1 (pos + 1) := by
  rw [closingParen_step h.lt (h.byte?_first (by decide)) (by decide)]
  show (Pure.pure (pos + 1) : Guarded Nat) >>= _ = _
  rw [Guarded.pure_bind, if_pos (Nat.lt_succ_self pos), if_pos rfl]

/-- A byte that is read on its own and is no parenthesis changes nothing. -/
theorem closingParen_plain {depth : Nat} (h : Spans src pos r.stop (c :: t)) (hc : ¬IsWide c)
    (hplain : isStructural c = false) :
    closingParen src rule r.stop depth pos = closingParen src rule r.stop depth (pos + 1) := by
  simp only [isStructural, List.contains_eq_mem, List.mem_cons, List.not_mem_nil, or_false,
    decide_eq_false_iff_not, not_or] at hplain
  obtain ⟨hquote, hclass, hesc, hopen, hclose⟩ := hplain
  rw [closingParen_step h.lt (h.byte?_first hc) hclose, skipPiece, if_neg hquote, if_neg hclass,
    if_neg hesc, Guarded.pure_bind, if_pos (Nat.lt_succ_self pos), if_neg hopen]

theorem readGroup_tracks {inverted lookahead : Bool} {inner : Nat} {fault : BodyFault}
    (h : Spans src pos r.stop s) (hinner : Spans src inner r.stop t) (hlt : pos < inner)
    (hopen : closingParen src r.rule r.stop 0 pos = closingParen src r.rule r.stop 1 inner) :
    Tracks src (Opens src r.stop pos) (readGroup src r inverted pos inner lookahead fault) (do
      let (inside, rest) ← Rule.splitGroup r s t fault
      pure ⟨inverted, .group lookahead, inside, rest⟩) := by
  have hunmatched : Tracks src (Opens src r.stop pos)
      (.fail (.unmatchedParenthesis r.rule pos)) (.fail (.unmatchedParenthesis r.rule pos)) :=
    Tracks.fail (inside_of_boundary h.boundary_start rfl)
  unfold readGroup Rule.splitGroup
  rw [hopen, offset_eq hinner, offset_eq h, bind_assoc]
  refine (closingParen_tracks hinner).bind fun found split hok hfinds => ?_
  cases found with
  | none => cases split with
    | none => exact hunmatched
    | some split => exact hfinds.elim
  | some close => cases split with
    | none => exact hfinds.elim
    | some split =>
      obtain ⟨inside, back⟩ := split
      obtain ⟨hinside, hback⟩ := hfinds
      obtain ⟨rest, rfl⟩ : ∃ rest, back = ')' :: rest := by
        have hstop := Outline.stop_of_splitTop hok
        exact List.head?_eq_some_iff.1 (by simpa using hstop)
      refine Tracks.demand (Text.slice?_eq_some.2 hinside) ?_
      dsimp only
      split
      · exact refuse_tracks h
      · exact Tracks.pure ⟨rfl, rfl, rfl, hback.tail_narrow (by decide), rfl, hinside, hlt, rfl⟩

theorem isNameChar_of_isWide (hc : IsWide c) : Rule.isNameChar c = false := by
  have hval : 128 ≤ c.toNat := hc
  simp [Rule.isNameChar, Char.isAlphanum, Char.isAlpha, Char.isUpper, Char.isLower, Char.isDigit,
    UInt32.le_iff_toNat_le, hc.ne (d := '_') (by decide)]
  omega

theorem isNameStart_of_isWide (hc : IsWide c) : Rule.isNameStart c = false := by
  by_contra hstart
  rw [Bool.not_eq_false] at hstart
  have hchar := isNameChar_of_isWide hc
  rw [Rule.isNameChar_of_isNameStart hstart] at hchar
  cases hchar

theorem readHead_plain {inverted : Bool} (hquote : c ≠ '\x27') (hopen : c ≠ '(') (hclose : c ≠ ')') :
    Rule.readHead r inverted s (c :: t) =
      if c = '^' ∨ c = '[' ∨ c = '.' then do
        let (l, rest) ← Rule.readExpression r (c :: t)
        pure ⟨inverted, .leaf l, [], rest⟩
      else if Rule.isNameStart c then
        pure ⟨inverted, .reference ((c :: t).takeWhile Rule.isNameChar), [],
          (c :: t).dropWhile Rule.isNameChar⟩
      else r.fail (c :: t) .unexpectedCharacter := by
  unfold Rule.readHead
  split <;> simp_all

theorem readHead_group {inverted : Bool} (hplain : ∀ u, t ≠ '?' :: '!' :: u) :
    Rule.readHead r inverted s ('(' :: t) = (do
      let (inside, rest) ← Rule.splitGroup r ('(' :: t) t .emptyGroup
      pure ⟨inverted, .group false, inside, rest⟩) := by
  unfold Rule.readHead
  split
  · next heq => cases heq
  · next heq => cases heq
  · next u heq => exact absurd (List.cons.inj heq).2 (hplain u)
  · next heq =>
    cases heq
    rfl
  · next heq => cases heq
  · next hopen _ heq => exact absurd (List.cons.inj heq).1.symm hopen

theorem readHead_tracks {inverted : Bool} (hs : Spans src i r.stop s)
    (h : Spans src pos r.stop (c :: t)) :
    Tracks src (Opens src r.stop pos) (readHead src r inverted i pos)
      (Rule.readHead r inverted s (c :: t)) := by
  obtain ⟨b, hb, hlike⟩ := h.exists_byte?
  refine Tracks.demand hb ?_
  simp only [hlike.eq_iff (d := '\x27') (by decide), hlike.eq_iff (d := '^') (by decide),
    hlike.eq_iff (d := '[') (by decide), hlike.eq_iff (d := '.') (by decide),
    hlike.eq_iff (d := '(') (by decide), hlike.eq_iff (d := ')') (by decide)]
  by_cases hquote : c = '\x27'
  · subst hquote
    rw [if_pos rfl]
    refine (readLiteral_tracks h).bind ?_
    rintro ⟨l, after⟩ ⟨l', rest⟩ - ⟨rfl, hrest⟩
    exact Tracks.pure ⟨rfl, rfl, rfl, hrest, rfl⟩
  by_cases hopen : c = '('
  · subst hopen
    rw [if_neg hquote, if_neg (by decide), if_pos rfl]
    refine Tracks.demand (Text.slice?_eq_some.2 h) ?_
    have hinside := h.tail_narrow (by decide)
    by_cases hlook : ['(', '?', '!'].isPrefixOf ('(' :: t) = true
    · obtain ⟨u, rfl⟩ : ∃ u, t = '?' :: '!' :: u := by
        obtain ⟨u, hu⟩ := List.isPrefixOf_iff_prefix.1 hlook
        exact ⟨u, (List.cons.inj hu).2.symm⟩
      have hmark := hinside.tail_narrow (by decide)
      have hinner := hmark.tail_narrow (by decide)
      rw [if_pos hlook]
      show Tracks src _ _ (if inverted = true then _ else _)
      split
      · exact refuse_tracks hs
      · refine readGroup_tracks h hinner (by omega) ?_
        rw [closingParen_open h, closingParen_plain hinside (by decide) (by decide),
          closingParen_plain hmark (by decide) (by decide)]
    · rw [if_neg hlook, readHead_group fun u hu => hlook (by rw [hu]; rfl)]
      exact readGroup_tracks h hinside (Nat.lt_succ_self pos) (closingParen_open h)
  by_cases hclose : c = ')'
  · subst hclose
    rw [if_neg hquote, if_neg (by decide), if_neg hopen, if_pos rfl]
    show Tracks src _ _ (Checked.fail (.unmatchedParenthesis r.rule (r.offset (')' :: t))))
    rw [offset_eq h]
    exact Tracks.fail (inside_of_boundary h.boundary_start rfl)
  rw [readHead_plain hquote hopen hclose, if_neg hquote]
  split
  · refine (readExpression_tracks h).bind ?_
    rintro ⟨l, after⟩ ⟨l', rest⟩ - ⟨rfl, hrest⟩
    exact Tracks.pure ⟨rfl, rfl, rfl, hrest, rfl⟩
  · rw [hlike.test fun _ => isNameStart_of_isWide]
    split
    · obtain ⟨after, hafter, hname, hrest⟩ := skipWhile_spans (fun _ => isNameChar_of_isWide) h
      refine Tracks.demand hafter (Tracks.demand (Text.slice?_eq_some.2 hname) ?_)
      exact Tracks.pure ⟨rfl, rfl, rfl, hrest, rfl⟩
    · exact refuse_tracks h

theorem Opens.mono {o : Opening} {o' : Rule.Opening} (h : Opens src stop pos o o') (hi : i ≤ pos) :
    Opens src stop i o o' := by
  refine ⟨h.inverted, h.head, h.inside, h.after, ?_⟩
  have hbounds := h.bounds
  split at hbounds
  · exact hbounds
  · exact ⟨hbounds.1, hbounds.2.1, by omega, hbounds.2.2.2⟩

theorem readOpening_tracks (h : Spans src pos r.stop (c :: t)) :
    Tracks src (Opens src r.stop pos) (readOpening src r pos) (Rule.readOpening r (c :: t)) := by
  obtain ⟨b, hb, hlike⟩ := h.exists_byte?
  refine Tracks.demand hb ?_
  simp only [hlike.eq_iff (d := '~') (by decide)]
  by_cases htilde : c = '~'
  · subst htilde
    obtain ⟨next, hnext, hleft⟩ := skipBlanks_spans (h.tail_narrow (by decide))
    have hlt := h.lt_of_length_lt hleft (Nat.lt_succ_of_le (Rule.length_skipBlanks t))
    rw [if_pos rfl]
    show Tracks src _ _ (Rule.readHead r true ('~' :: t) (Rule.skipBlanks t))
    refine Tracks.demand hnext ?_
    cases hu : Rule.skipBlanks t with
    | nil =>
      rw [hu] at hleft
      obtain rfl : r.stop = next := hleft.stop_eq_add
      rw [if_neg (Nat.lt_irrefl _)]
      exact refuse_tracks h
    | cons d u =>
      rw [hu] at hleft
      rw [if_pos hleft.lt]
      exact (readHead_tracks h hleft).mono fun o o' ho => ho.mono (Nat.le_of_lt hlt)
  · have hhead : Rule.readOpening r (c :: t) = Rule.readHead r false (c :: t) (c :: t) := by
      simp [Rule.readOpening, htilde]
    rw [if_neg htilde, hhead]
    exact readHead_tracks h h

/-! ### Behind the head of an atom -/

theorem readQuantifier_tracks (h : Spans src pos r.stop s) :
    Tracks src (Reads src r.stop) (readQuantifier src r pos) (Rule.readQuantifier r s) := by
  unfold readQuantifier
  cases s with
  | nil =>
    obtain rfl : r.stop = pos := h.stop_eq_add
    rw [if_neg (Nat.lt_irrefl _)]
    exact Tracks.pure ⟨rfl, h⟩
  | cons c s =>
    obtain ⟨b, hb, hlike⟩ := h.exists_byte?
    rw [if_pos h.lt]
    refine Tracks.demand hb ?_
    simp only [hlike.eq_iff (d := '*') (by decide), hlike.eq_iff (d := '+') (by decide),
      hlike.eq_iff (d := '?') (by decide), hlike.eq_iff (d := '\x7b') (by decide)]
    rw [Rule.readQuantifier]
    split
    · refine Tracks.demand (Text.slice?_eq_some.2 h) ?_
      cases hread : Quantifier.read? r.cap (c :: s) with
      | none => exact refuse_tracks h
      | some read =>
        obtain ⟨q, rest⟩ := read
        obtain ⟨front, hfront, -, -⟩ := Quantifier.read?_eq_some.1 hread
        rw [hfront] at h
        have hbytes : byteLength (c :: s) - byteLength rest = byteLength front := by
          rw [hfront, byteLength_append, Nat.add_sub_cancel]
        dsimp only
        rw [hbytes]
        exact Tracks.pure ⟨rfl, h.drop⟩
    · exact Tracks.pure ⟨rfl, h⟩

theorem readEndAnchor_tracks {head : Head} (h : Spans src pos r.stop s) :
    Tracks src (Reads src r.stop) (readEndAnchor src r head pos)
      (pure (Rule.readEndAnchor head s)) := by
  unfold readEndAnchor Rule.readEndAnchor
  split
  · refine Tracks.demand (isByte_eq h (by decide)) ?_
    split
    · next hdollar =>
      obtain ⟨t, rfl⟩ := List.head?_eq_some_iff.1 (by simpa using hdollar)
      exact Tracks.pure ⟨rfl, h.tail_narrow (by decide)⟩
    · next hdollar =>
      split
      · simp at hdollar
      · exact Tracks.pure ⟨rfl, h⟩
  · next hplain =>
    split
    · next value pattern t => exact absurd rfl (hplain value pattern)
    · exact Tracks.pure ⟨rfl, h⟩

end Readers

end Offsets

end Lexigram
