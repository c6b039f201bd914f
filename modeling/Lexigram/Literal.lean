import Lexigram.Text.Bytes

/-!
# Literals

A literal stands between apostrophes. Inside it a backslash introduces an escape: a backslash, an
apostrophe and a double quote stand for themselves, and `n`, `t`, `r` and `0` for line feed, tab,
carriage return and the null character. An escape without a meaning keeps its backslash and is
reported.
-/

namespace Lexigram.Literal

/-- The character that an escape stands for. -/
def escape? : Char → Option Char
  | '\\' => some '\\'
  | 'n' => some '\n'
  | 't' => some '\t'
  | 'r' => some '\r'
  | '0' => some '\x00'
  | '\x27' => some '\x27'
  | '\x22' => some '\x22'
  | _ => none

/-- The text that the inside of a literal stands for. -/
def unescape : List Char → List Char
  | [] => []
  | ['\\'] => ['\\']
  | '\\' :: c :: s =>
    match escape? c with
    | some d => d :: unescape s
    | none => '\\' :: c :: unescape s
  | c :: s => c :: unescape s

/-- The characters of escapes without a meaning, with their offsets. The inside of the literal
begins at `offset`. -/
def unknownEscapes (offset : Nat) : List Char → List (Nat × Char)
  | [] => []
  | ['\\'] => []
  | '\\' :: c :: s =>
    let rest := unknownEscapes (offset + 1 + c.utf8Size) s
    if (escape? c).isSome then rest else (offset + 1, c) :: rest
  | c :: s => unknownEscapes (offset + c.utf8Size) s

/-- Splits a text behind an opening quote into the inside of the literal and what follows the
closing quote. A backslash keeps the character behind it from closing the literal. -/
def split? (quote : Char) : List Char → Option (List Char × List Char)
  | [] => none
  | ['\\'] => none
  | '\\' :: c :: s => (split? quote s).map fun (inside, rest) => ('\\' :: c :: inside, rest)
  | c :: s =>
    if c = quote then some ([], s)
    else (split? quote s).map fun (inside, rest) => (c :: inside, rest)

theorem eq_of_split? {quote : Char} {s inside rest : List Char}
    (h : split? quote s = some (inside, rest)) : s = inside ++ quote :: rest := by
  fun_induction split? quote s generalizing inside with
  | case1 | case2 => simp at h
  | case3 c s ih =>
    obtain ⟨⟨i, r⟩, hi, he⟩ := Option.map_eq_some_iff.1 h
    obtain ⟨rfl, rfl⟩ := Prod.mk.inj he
    simp [ih hi]
  | case4 s =>
    obtain ⟨rfl, rfl⟩ := Prod.mk.inj (Option.some.inj h)
    simp
  | case5 _ s _ _ _ ih =>
    obtain ⟨⟨i, r⟩, hi, he⟩ := Option.map_eq_some_iff.1 h
    obtain ⟨rfl, rfl⟩ := Prod.mk.inj he
    simp [ih hi]

/-- The offset of the apostrophe that closes the literal opened at the byte `start`. -/
def closingQuote? (src : List Char) (start : Nat) : Option Nat :=
  let after := Text.dropBytes (start + 1) src
  (split? '\x27' after).map fun (inside, _) =>
    Text.byteLength src - Text.byteLength after + Text.byteLength inside

end Lexigram.Literal
