import Lexigram.CompileError
import Lexigram.Literal
import Lexigram.Text.Property

/-!
# Statements of a document

A grammar document is a row of statements, each ended by a semicolon. Semicolons inside literals,
classes, parentheses and braces end nothing. Comments are left out: one that runs to the end of its
line leaves nothing, one between `/*` and `*/` leaves a blank.
-/

namespace Lexigram.Document

/-- A statement without its semicolon, with the line on which it begins. -/
structure Statement where
  line : Nat
  text : List Char
  deriving DecidableEq, Repr

/-! ## Segments -/

/-- Splits a text inside a class, behind its first character, at the bracket that closes it. -/
def closeClass? : List Char → Option (List Char × List Char)
  | [] => none
  | ['\\'] => none
  | '\\' :: c :: s => (closeClass? s).map fun (inside, rest) => ('\\' :: c :: inside, rest)
  | c :: s =>
    if c = ']' then some ([], s)
    else (closeClass? s).map fun (inside, rest) => (c :: inside, rest)

theorem eq_of_closeClass? {s inside rest : List Char} (h : closeClass? s = some (inside, rest)) :
    s = inside ++ ']' :: rest := by
  fun_induction closeClass? s generalizing inside with
  | case1 | case2 => simp at h
  | case3 c s ih =>
    obtain ⟨⟨i, r⟩, hi, he⟩ := Option.map_eq_some_iff.1 h
    obtain ⟨rfl, rfl⟩ := Prod.mk.inj he
    simp [ih hi]
  | case4 s =>
    obtain ⟨rfl, rfl⟩ := Prod.mk.inj (Option.some.inj h)
    simp
  | case5 _ s _ _ _ ih =>
    obtain ⟨⟨i, r⟩, hi, he⟩ := Option.map_eq_some_iff.1 h
    obtain ⟨rfl, rfl⟩ := Prod.mk.inj he
    simp [ih hi]

/-- Splits a text behind an opening bracket at the bracket that closes the class. A closing bracket
directly behind the opening one stands for itself, and a backslash there escapes. -/
def splitClass? : List Char → Option (List Char × List Char)
  | ']' :: s => (closeClass? s).map fun (inside, rest) => (']' :: inside, rest)
  | s => closeClass? s

theorem eq_of_splitClass? {s inside rest : List Char} (h : splitClass? s = some (inside, rest)) :
    s = inside ++ ']' :: rest := by
  unfold splitClass? at h
  split at h
  · obtain ⟨⟨i, r⟩, hi, he⟩ := Option.map_eq_some_iff.1 h
    obtain ⟨rfl, rfl⟩ := Prod.mk.inj he
    simp [eq_of_closeClass? hi]
  · exact eq_of_closeClass? h

/-- Splits a text inside a comment behind the `*/` that ends it. -/
def splitComment? : List Char → Option (List Char × List Char)
  | [] => none
  | '*' :: '/' :: s => some (['*', '/'], s)
  | c :: s => (splitComment? s).map fun (inside, rest) => (c :: inside, rest)

theorem eq_of_splitComment? {s inside rest : List Char}
    (h : splitComment? s = some (inside, rest)) : s = inside ++ rest := by
  fun_induction splitComment? s generalizing inside with
  | case1 => simp at h
  | case2 s =>
    obtain ⟨rfl, rfl⟩ := Prod.mk.inj (Option.some.inj h)
    simp
  | case3 c s _ ih =>
    obtain ⟨⟨i, r⟩, hi, he⟩ := Option.map_eq_some_iff.1 h
    obtain ⟨rfl, rfl⟩ := Prod.mk.inj he
    simp [ih hi]

/-- The beginning of a text that belongs together. -/
structure Segment where
  /-- The segment as it stands in the document. -/
  taken : List Char
  /-- What of it belongs to the statement. -/
  kept : List Char
  /-- What follows the segment. -/
  rest : List Char

/-- Splits the first segment off a text. Inside braces, brackets are characters like others. -/
def splitSegment (inBraces : Bool) (s : List Char) : Except DeclarationFault Segment :=
  match s with
  | '/' :: '/' :: t =>
    .ok ⟨'/' :: '/' :: t.takeWhile (· != '\n'), [], t.dropWhile (· != '\n')⟩
  | '/' :: '*' :: t =>
    match splitComment? t with
    | some (inside, rest) => .ok ⟨'/' :: '*' :: inside, [' '], rest⟩
    | none => .error .unterminatedComment
  | c :: t =>
    if c = '\x27' ∨ c = '\x22' then
      match Literal.split? c t with
      | some (inside, rest) => .ok ⟨c :: inside ++ [c], c :: inside ++ [c], rest⟩
      | none => .error .unterminatedLiteral
    else if c = '[' ∧ !inBraces then
      match splitClass? t with
      | some (inside, rest) => .ok ⟨c :: inside ++ [']'], c :: inside ++ [']'], rest⟩
      | none => .error .unterminatedClass
    else .ok ⟨[c], [c], t⟩
  | [] => .ok ⟨[], [], []⟩

theorem eq_of_splitSegment {inBraces : Bool} {s : List Char} {g : Segment}
    (h : splitSegment inBraces s = .ok g) : s = g.taken ++ g.rest := by
  unfold splitSegment at h
  split at h
  · next t =>
    cases h
    simp
  · split at h
    · next hc =>
      cases h
      simp [eq_of_splitComment? hc]
    · simp at h
  · split at h
    · split at h
      · next hc =>
        cases h
        simp [Literal.eq_of_split? hc]
      · simp at h
    · split at h
      · split at h
        · next hc _ _ _ hs =>
          cases h
          simp [eq_of_splitClass? hs]
        · simp at h
      · cases h
        rfl
  · cases h
    rfl

theorem length_splitSegment {inBraces : Bool} {c : Char} {s : List Char} {g : Segment}
    (h : splitSegment inBraces (c :: s) = .ok g) : g.rest.length ≤ s.length := by
  have hl := congrArg List.length (eq_of_splitSegment h)
  have ht : g.taken ≠ [] := by
    unfold splitSegment at h
    split at h
    · cases h
      simp
    · split at h
      · cases h
        simp
      · simp at h
    · split at h
      · split at h
        · cases h
          simp
        · simp at h
      · split at h
        · split at h
          · cases h
            simp
          · simp at h
        · cases h
          simp
    · simp_all
  have := List.length_pos_iff.2 ht
  simp only [List.length_cons, List.length_append] at hl
  omega

/-! ## Splitting at semicolons -/

/-- How far the splitting is. -/
structure Progress where
  line : Nat := 1
  /-- The line on which the current statement begins, once something of it was seen. -/
  startLine : Option Nat := none
  /-- The current statement so far. -/
  current : List Char := []
  parens : Nat := 0
  braces : Nat := 0

namespace Progress

/-- Notes the line on which a statement begins, at a character that is no blank and cannot begin a
comment. -/
def see (p : Progress) (c : Char) : Progress :=
  if p.startLine.isNone && !Text.isAsciiBlank c && c != '/' then { p with startLine := p.line }
  else p

/-- Goes on behind a segment. -/
def add (p : Progress) (g : Segment) : Progress :=
  { p with
    line := p.line + g.taken.count '\n'
    current := p.current ++ g.kept
    parens :=
      match g.taken with
      | ['('] => p.parens + 1
      | [')'] => p.parens - 1
      | _ => p.parens
    braces :=
      match g.taken with
      | ['\x7b'] => p.braces + 1
      | ['\x7d'] => p.braces - 1
      | _ => p.braces }

/-- The current statement, unless it is blank. -/
def statement? (p : Progress) : Option Statement :=
  let text := Text.trim p.current
  if text.isEmpty then none else some ⟨p.startLine.getD p.line, text⟩

/-- Goes on behind the semicolon of a statement. -/
def next (p : Progress) : Progress := { line := p.line }

end Progress

/-- Splits what is left of a document at the semicolons. -/
def splitFrom (p : Progress) (s : List Char) : Except CompileError (List Statement) :=
  match s with
  | [] =>
    match p.statement? with
    | some statement => .error (.malformedDeclaration statement.line .missingTerminator)
    | none => .ok []
  | c :: s =>
    let p := p.see c
    if c = ';' ∧ p.parens = 0 ∧ p.braces = 0 then
      (splitFrom p.next s).map (p.statement?.toList ++ ·)
    else
      match _hg : splitSegment (p.braces != 0) (c :: s) with
      | .error fault => .error (.malformedDeclaration p.line fault)
      | .ok g => splitFrom (p.add g) g.rest
termination_by s.length
decreasing_by
  · simp
  · exact Nat.lt_succ_of_le (length_splitSegment _hg)

/-- The statements of a document. -/
def statements (src : List Char) : Except CompileError (List Statement) := splitFrom {} src

end Lexigram.Document
