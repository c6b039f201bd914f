import Lexigram.Document
import Lexigram.Proofs.OffsetBodies
import Lexigram.Proofs.Statements

/-!
# Documents by offsets

The splitting of documents once more, on offsets into the bytes of the document. Literals and
classes are passed byte by byte, with a backslash making the search jump over two bytes, and
everything else is passed by characters.

**Segments** (`Passes`). Behind every segment there is an offset between characters, so the next
segment can be cut out as well.

Main results: `Offsets.readDocument_eq` and `Offsets.reading_stays_inside`.
-/

namespace Lexigram

open Text (byte? slice? byteLength byteLength_append byteLength_cons byteLength_nil IsWide)

namespace Offsets

open Document (Progress Segment Statement)
open Guarded (Tracks demand stuck)

/-! ## Segments -/

/-- The offset of the bracket that closes the class which begins at an offset. A closing bracket
directly behind the opening one stands for itself. -/
def closingBracket? (src : List Char) (i : Nat) : Option Nat :=
  (byte? src (i + 1)).bind fun b =>
    closingQuote? src ']' (if b = '\\' then i + 3 else i + 2)

/-- The offset behind the character that closes a segment. -/
def behind (line : Nat) (fault : DeclarationFault) : Option Nat → Guarded (Nat × Option (List Char))
  | some close => pure (close + 1, none)
  | none => .fail (.malformedDeclaration line fault)

/-- The offset behind the segment that begins with the byte `b` at an offset, and what belongs to
the statement in place of the segment. -/
def passSegment (src : List Char) (inBraces : Bool) (line i : Nat) (b : Char) :
    Guarded (Nat × Option (List Char)) :=
  if b = '/' ∧ byte? src (i + 1) = some '/' then do
    let left ← demand (slice? src i (byteLength src))
    pure (i + byteLength (left.takeWhile (· != '\n')), some [])
  else if b = '/' ∧ byte? src (i + 1) = some '*' then do
    let left ← demand (slice? src (i + 2) (byteLength src))
    match Document.splitComment? left with
    | some (inside, _) => pure (i + 2 + byteLength inside, some [' '])
    | none => .fail (.malformedDeclaration line .unterminatedComment)
  else if b = '\x27' ∨ b = '\x22' then
    behind line .unterminatedLiteral (closingQuote? src b (i + 1))
  else if b = '[' ∧ !inBraces then behind line .unterminatedClass (closingBracket? src i)
  else if b = '(' ∨ b = ')' ∨ b = '\x7b' ∨ b = '\x7d' then pure (i + 1, none)
  else do
    let left ← demand (slice? src i (byteLength src))
    pure (i + (left.head?.map Char.utf8Size).getD 1, none)

/-! ## Documents -/

/-- Splits what is left of a document from an offset on. -/
def splitFrom (src : List Char) (p : Progress) (i : Nat) : Guarded (List Statement) :=
  if i < byteLength src then do
    let b ← demand (byte? src i)
    let p := p.see b
    if b = ';' ∧ p.parens = 0 ∧ p.braces = 0 then do
      let statements ← splitFrom src p.next (i + 1)
      pure (p.statement?.toList ++ statements)
    else do
      let (stop, kept) ← passSegment src (p.braces != 0) p.line i b
      let taken ← demand (slice? src i stop)
      if i < stop then splitFrom src (p.add ⟨taken, kept.getD taken, []⟩) stop else stuck
  else
    match p.statement? with
    | some statement => .fail (.malformedDeclaration statement.line .missingTerminator)
    | none => pure []
termination_by byteLength src - i

/-- Reads a document. -/
def readDocument (src : List Char) : Guarded Document := do
  let statements ← splitFrom src {} 0
  Guarded.free (.lift (Document.ofStatements statements))

/-! ## Segments are passed as they are split off -/

section Segments

variable {src s t : List Char} {i : Nat} {b c d : Char} {inBraces : Bool} {line : Nat}

theorem byte?_head (h : Spans src i (byteLength src) s) (hd : ¬IsWide d) :
    byte? src i = some d ↔ s.head? = some d := by
  cases s with
  | nil =>
    have hend : byteLength src = i := h.stop_eq_add
    constructor
    · intro hb
      exact absurd (Text.lt_of_byte? hb) (Nat.not_lt_of_le (Nat.le_of_eq hend))
    · intro hhead
      cases hhead
  | cons c s => rw [h.byte?_eq_some_iff hd, List.head?_cons, Option.some.injEq]

theorem byte?_of_closingQuote? {quote : Char} {close : Nat}
    (h : closingQuote? src quote i = some close) : byte? src close = some quote := by
  fun_induction closingQuote? src quote i with
  | case1 => cases h
  | case2 i hb ih => exact ih h
  | case3 i hb hesc =>
    cases h
    exact hb
  | case4 i b hb hesc hc ih => exact ih h

/-- In a whole text the closing quote is found where the literal closes, and only there. -/
theorem closingQuote?_whole {quote : Char} (hq : ¬IsWide quote)
    (h : Spans src i (byteLength src) s) :
    closingQuote? src quote i =
      (Literal.split? quote s).map fun (inside, _) => i + byteLength inside := by
  have hsplit := closingQuote?_split hq h
  cases hs : Literal.split? quote s with
  | some split =>
    rw [hs] at hsplit
    exact hsplit
  | none =>
    rw [hs] at hsplit
    cases hclose : closingQuote? src quote i with
    | none => rfl
    | some close =>
      have hle := hsplit close hclose
      have hlt := Text.lt_of_byte? (byte?_of_closingQuote? hclose)
      omega

/-- Behind the first byte of a class a bracket is found as a quote is. -/
theorem closingBracket?_whole (h : Spans src (i + 1) (byteLength src) s) :
    closingBracket? src i =
      (Document.splitClass? s).map fun (inside, _) => i + 1 + byteLength inside := by
  unfold closingBracket?
  cases s with
  | nil =>
    have hnone : byte? src (i + 1) = none := by
      have hend : byteLength src = i + 1 := h.stop_eq_add
      cases hb : byte? src (i + 1) with
      | none => rfl
      | some b =>
        have hlt := Text.lt_of_byte? hb
        omega
    rw [hnone]
    rfl
  | cons c s =>
    by_cases hc : c = ']'
    · subst hc
      rw [h.byte?_first (by decide), Option.bind_some, if_neg (by decide),
        closingQuote?_whole (by decide) (h.tail_narrow (by decide)), Document.splitClass?,
        Document.closeClass?_eq_split?, Option.map_map]
      congr 1
      funext split
      simp only [Function.comp_apply, byteLength_cons,
        Text.utf8Size_of_not_wide (c := ']') (by decide)]
      omega
    · obtain ⟨b, hb, hlike⟩ := h.exists_byte?
      have hbracket : b ≠ ']' := mt (hlike.eq_iff (by decide)).1 hc
      rw [Document.splitClass?_cons hc, Document.closeClass?_eq_split?,
        ← closingQuote?_whole (by decide) h, closingQuote?_step hb, if_neg hbracket, hb,
        Option.bind_some]
      split <;> rfl

/-- What passing a segment has to do with splitting it off. -/
def Passes (src : List Char) (i : Nat) (p : Nat × Option (List Char)) (g : Segment) : Prop :=
  Spans src i p.1 g.taken ∧ Spans src p.1 (byteLength src) g.rest ∧ p.2.getD g.taken = g.kept

/-- A segment between two characters, given how the text behind the first one is split. -/
def fenced (c d : Char) (fault : DeclarationFault) :
    Option (List Char × List Char) → Except DeclarationFault Segment
  | some (inside, rest) => .ok ⟨c :: inside ++ [d], c :: inside ++ [d], rest⟩
  | none => .error fault

/-- A segment between two characters is passed if it closes. -/
theorem behind_tracks {fault : DeclarationFault} {split : Option (List Char × List Char)}
    (h : Spans src i (byteLength src) (c :: t)) (hc : ¬IsWide c) (hd : ¬IsWide d)
    (hsplit : ∀ inside rest, split = some (inside, rest) → t = inside ++ d :: rest) :
    Tracks src (Passes src i)
      (behind line fault (split.map fun (inside, _) => i + 1 + byteLength inside))
      (.lift ((fenced c d fault split).mapError (CompileError.malformedDeclaration line))) := by
  cases split with
  | none => exact Tracks.fail (inside_of_none rfl)
  | some split =>
    obtain ⟨inside, rest⟩ := split
    have htext : c :: t = (c :: inside ++ [d]) ++ rest := by
      rw [hsplit inside rest rfl]
      simp
    have hlength : i + byteLength (c :: inside ++ [d]) = i + 1 + byteLength inside + 1 := by
      simp [Text.utf8Size_of_not_wide hc, Text.utf8Size_of_not_wide hd, Nat.add_assoc]
    rw [htext] at h
    have htaken := h.take
    have hrest := h.drop
    rw [hlength] at htaken hrest
    exact Tracks.pure ⟨htaken, hrest, rfl⟩

/-- How a segment is split off that begins no comment. -/
theorem splitSegment_plain (hcomment : c = '/' → Document.NoComment s) :
    Document.splitSegment inBraces (c :: s) =
      if c = '\x27' ∨ c = '\x22' then fenced c c .unterminatedLiteral (Literal.split? c s)
      else if c = '[' ∧ !inBraces then
        fenced c ']' .unterminatedClass (Document.splitClass? s)
      else .ok ⟨[c], [c], s⟩ := by
  rw [Document.splitSegment.eq_def]
  split
  · next he =>
    obtain ⟨rfl, rfl⟩ := List.cons.inj he
    exact absurd rfl (hcomment rfl '/' rfl).1
  · next he =>
    obtain ⟨rfl, rfl⟩ := List.cons.inj he
    exact absurd rfl (hcomment rfl '*' rfl).2
  · next he =>
    obtain ⟨rfl, rfl⟩ := List.cons.inj he
    rfl
  · next he => cases he

theorem passSegment_line (h : Spans src i (byteLength src) ('/' :: '/' :: t)) :
    Tracks src (Passes src i) (passSegment src inBraces line i '/')
      (.lift ((Document.splitSegment inBraces ('/' :: '/' :: t)).mapError
        (CompileError.malformedDeclaration line))) := by
  have hsecond := (byte?_head (h.tail_narrow (by decide)) (d := '/') (by decide)).2 rfl
  rw [passSegment, if_pos ⟨rfl, hsecond⟩]
  refine Tracks.demand (Text.slice?_eq_some.2 h) ?_
  have htext : '/' :: '/' :: t =
      '/' :: '/' :: t.takeWhile (· != '\n') ++ t.dropWhile (· != '\n') := by simp
  rw [htext] at h
  exact Tracks.pure ⟨h.take, h.drop, rfl⟩

theorem passSegment_block (h : Spans src i (byteLength src) ('/' :: '*' :: t)) :
    Tracks src (Passes src i) (passSegment src inBraces line i '/')
      (.lift ((Document.splitSegment inBraces ('/' :: '*' :: t)).mapError
        (CompileError.malformedDeclaration line))) := by
  have hbehind := h.tail_narrow (by decide)
  have hinside := hbehind.tail_narrow (by decide)
  have hsecond : byte? src (i + 1) = some '*' := hbehind.byte?_first (by decide)
  rw [passSegment, if_neg (by simp [hsecond]), if_pos ⟨rfl, hsecond⟩]
  refine Tracks.demand (Text.slice?_eq_some.2 hinside) ?_
  rw [Document.splitSegment]
  cases hsplit : Document.splitComment? t with
  | none => exact Tracks.fail (inside_of_none rfl)
  | some split =>
    obtain ⟨inside, rest⟩ := split
    rw [Document.eq_of_splitComment? hsplit] at h
    have hlength : i + byteLength ('/' :: '*' :: inside) = i + 2 + byteLength inside := by
      simp only [byteLength_cons, Text.utf8Size_of_not_wide (c := '/') (by decide),
        Text.utf8Size_of_not_wide (c := '*') (by decide)]
      omega
    have htaken := h.take (u := '/' :: '*' :: inside)
    have hrest := h.drop (u := '/' :: '*' :: inside)
    rw [hlength] at htaken hrest
    exact Tracks.pure ⟨htaken, hrest, rfl⟩

theorem passSegment_tracks (h : Spans src i (byteLength src) (c :: s)) (hlike : Text.LooksLike b c) :
    Tracks src (Passes src i) (passSegment src inBraces line i b)
      (.lift ((Document.splitSegment inBraces (c :: s)).mapError
        (CompileError.malformedDeclaration line))) := by
  by_cases hslash : c = '/' ∧ (s.head? = some '/' ∨ s.head? = some '*')
  · obtain ⟨rfl, hs⟩ := hslash
    obtain rfl : b = '/' := (hlike.eq_iff (by decide)).2 rfl
    rcases hs with hs | hs
    · obtain ⟨t, rfl⟩ := List.head?_eq_some_iff.1 hs
      exact passSegment_line h
    · obtain ⟨t, rfl⟩ := List.head?_eq_some_iff.1 hs
      exact passSegment_block h
  have hbehind : ¬(b = '/' ∧ byte? src (i + 1) = some '/') ∧
      ¬(b = '/' ∧ byte? src (i + 1) = some '*') := by
    rw [hlike.eq_iff (by decide)]
    by_cases hc : c = '/'
    · subst hc
      have htail := h.tail_narrow (by decide)
      rw [byte?_head htail (by decide), byte?_head htail (by decide)]
      simpa using hslash
    · simp [hc]
  have hcomment : c = '/' → Document.NoComment s := by
    rintro rfl d hd
    simp only [true_and, not_or] at hslash
    constructor
    · rintro rfl
      exact hslash.1 hd
    · rintro rfl
      exact hslash.2 hd
  rw [passSegment, if_neg hbehind.1, if_neg hbehind.2]
  simp only [hlike.eq_iff (d := '\x27') (by decide), hlike.eq_iff (d := '\x22') (by decide),
    hlike.eq_iff (d := '[') (by decide), hlike.eq_iff (d := '(') (by decide),
    hlike.eq_iff (d := ')') (by decide), hlike.eq_iff (d := '\x7b') (by decide),
    hlike.eq_iff (d := '\x7d') (by decide)]
  rw [splitSegment_plain hcomment]
  by_cases hquote : c = '\x27' ∨ c = '\x22'
  · have hnarrow : ¬IsWide c := by
      rcases hquote with rfl | rfl <;> decide
    obtain rfl : b = c := (hlike.eq_iff hnarrow).2 rfl
    rw [if_pos hquote, if_pos hquote, closingQuote?_whole hnarrow (h.tail_narrow hnarrow)]
    exact behind_tracks h hnarrow hnarrow fun inside rest => Literal.eq_of_split?
  by_cases hclass : c = '[' ∧ !inBraces
  · obtain ⟨rfl, -⟩ := id hclass
    rw [if_neg hquote, if_neg hquote, if_pos hclass, if_pos hclass,
      closingBracket?_whole (h.tail_narrow (by decide))]
    exact behind_tracks h (by decide) (by decide) fun inside rest => Document.eq_of_splitClass?
  rw [if_neg hquote, if_neg hquote, if_neg hclass, if_neg hclass]
  split
  · next hbrace =>
    have hnarrow : ¬IsWide c := by
      rcases hbrace with rfl | rfl | rfl | rfl <;> decide
    have htaken := h.take (u := [c])
    rw [byteLength_cons, byteLength_nil, Text.utf8Size_of_not_wide hnarrow] at htaken
    exact Tracks.pure ⟨htaken, h.tail_narrow hnarrow, rfl⟩
  · refine Tracks.demand (Text.slice?_eq_some.2 h) ?_
    exact Tracks.pure ⟨h.take (u := [c]), h.tail, rfl⟩

end Segments

/-! ## Documents are split as their characters are -/

section Documents

variable {src s : List Char} {i : Nat} {b c : Char} {p : Progress}

theorem see_like (hlike : Text.LooksLike b c) : p.see b = p.see c := by
  have hblank : Text.isAsciiBlank b = Text.isAsciiBlank c :=
    hlike.test fun _ => isAsciiBlank_of_isWide
  have hslash : (b != '/') = (c != '/') := by
    simp only [bne, Bool.beq_eq_decide_eq, hlike.eq_iff (d := '/') (by decide)]
  rw [Progress.see, Progress.see, hblank, hslash]

/-- How the splitting goes on where no statement ends. -/
theorem splitFrom_segment (hends : ¬(c = ';' ∧ (p.see c).parens = 0 ∧ (p.see c).braces = 0)) :
    Document.splitFrom p (c :: s) =
      (Document.splitSegment ((p.see c).braces != 0) (c :: s)).mapError
          (CompileError.malformedDeclaration (p.see c).line) >>= fun g =>
        Document.splitFrom ((p.see c).add g) g.rest := by
  rw [Document.splitFrom, if_neg hends]
  split
  · next fault hfault =>
    rw [hfault]
    rfl
  · next g hg =>
    rw [hg]
    rfl

theorem splitFrom_tracks (h : Spans src i (byteLength src) s) :
    Tracks src (· = ·) (splitFrom src p i) (.lift (Document.splitFrom p s)) := by
  induction hn : s.length using Nat.strong_induction_on generalizing s p i with
  | _ n ih =>
  subst hn
  cases s with
  | nil =>
    have hend : byteLength src = i := h.stop_eq_add
    rw [splitFrom, if_neg (by omega), Document.splitFrom]
    cases p.statement? with
    | some statement => exact Tracks.fail (inside_of_none rfl)
    | none => exact Tracks.pure rfl
  | cons c s =>
    obtain ⟨b, hb, hlike⟩ := h.exists_byte?
    rw [splitFrom, if_pos h.lt]
    refine Tracks.demand hb ?_
    simp only [see_like hlike, hlike.eq_iff (d := ';') (by decide)]
    by_cases hends : c = ';' ∧ (p.see c).parens = 0 ∧ (p.see c).braces = 0
    · obtain ⟨rfl, -⟩ := id hends
      rw [if_pos hends, Document.splitFrom, if_pos hends, Checked.lift_map]
      refine (ih s.length (Nat.lt_succ_self _) (h.tail_narrow (by decide)) rfl).bind
        fun x y _ hxy => ?_
      subst hxy
      exact Tracks.pure rfl
    · rw [if_neg hends, splitFrom_segment hends, Checked.lift_bind]
      refine (passSegment_tracks h hlike).bind ?_
      rintro ⟨stop, kept⟩ g hg ⟨htaken, hrest, hkept⟩
      have hshorter : g.rest.length < (c :: s).length := by
        cases hs : Document.splitSegment ((p.see c).braces != 0) (c :: s) with
        | error fault =>
          rw [hs] at hg
          cases hg
        | ok g' =>
          rw [hs] at hg
          cases hg
          exact Nat.lt_succ_of_le (Document.length_splitSegment hs)
      refine Tracks.demand (Text.slice?_eq_some.2 htaken) ?_
      rw [if_pos (h.lt_of_length_lt hrest hshorter), hkept]
      exact ih _ hshorter hrest rfl

/-- **A document is read by offsets as it is read by characters.** -/
theorem readDocument_eq (src : List Char) :
    readDocument src = some (.lift (Document.read src)) := by
  unfold readDocument Document.read Document.statements
  rw [(splitFrom_tracks (spans_whole src)).eq]
  cases Document.splitFrom {} src <;> rfl

end Documents

/-! ## No reader leaves its text -/

/-- **Reading by offsets always has an outcome, and it points into the text.** Whatever text is read
as the body of a rule, every byte that is looked at is there, every piece that is cut out lies
between characters, and no count falls below zero. What is read is what the reader of characters
reads, and all spans of its diagnostics and the offset of its error lie between characters of the
body. Documents are read by offsets without leaving the text, too. -/
theorem reading_stays_inside :
    (∀ (rule : String) (cap base : Nat) (src : List Char),
      readBody rule cap base src = some (Rule.readBody rule cap base src) ∧
        (Rule.readBody rule cap base src).Inside src) ∧
    ∀ src : List Char, readDocument src = some (.lift (Document.read src)) := by
  constructor
  · intro rule cap base src
    have htracks := readBody_tracks src rule cap base
    exact ⟨htracks.eq, htracks.inside⟩
  · exact readDocument_eq

end Offsets

end Lexigram
