import Lexigram.Quantifier
import Lexigram.Text.Hexadecimal

/-!
# Attributes of a rule

A rule of a document may state attributes as a JSON object with at most three members: `order`, a
number, and `categories` and `options`, which are lists of tags or a text with the tags in it.
`Attributes.read?` refuses everything else.
-/

namespace Lexigram.Document

/-- The attributes that a rule states. -/
structure Attributes where
  order : Option Int := none
  categories : List String := []
  options : List String := []
  deriving DecidableEq, Repr

namespace Attributes

/-! ## Signs -/

/-- A sign of the notation, as far as attributes need it. -/
inductive Sign where
  | opened | closed | listOpened | listClosed | comma | colon | null
  | integer (n : Int)
  | text (s : List Char)
  deriving DecidableEq, Repr

/-- The character that a letter behind a backslash stands for. -/
def escape? : Char → Option Char
  | '\x22' => some '\x22'
  | '\\' => some '\\'
  | '/' => some '/'
  | 'b' => some '\x08'
  | 'f' => some '\x0c'
  | 'n' => some '\n'
  | 'r' => some '\r'
  | 't' => some '\t'
  | _ => none

/-- The character that two halves of a pair of UTF-16 units stand for. -/
def ofPair? (high low : Nat) : Option Char :=
  if 0xD800 ≤ high ∧ high ≤ 0xDBFF ∧ 0xDC00 ≤ low ∧ low ≤ 0xDFFF then
    Text.charOfNumber? (0x10000 + (high - 0xD800) * 0x400 + (low - 0xDC00))
  else none

/-- Reads a character by number behind `\u`: four digits, or two such numbers that form a pair. -/
def readNumbered (s : List Char) : Option (Char × List Char) :=
  match s with
  | a :: b :: c :: d :: s =>
    (Text.ofHex? [a, b, c, d]).bind fun unit =>
      match Text.charOfNumber? unit with
      | some e => some (e, s)
      | none =>
        match s with
        | '\\' :: 'u' :: a :: b :: c :: d :: s =>
          (Text.ofHex? [a, b, c, d]).bind fun low => (ofPair? unit low).map (·, s)
        | _ => none
  | _ => none

/-- Reads a character inside a text, as itself or as an escape. -/
def readChar (s : List Char) : Option (Char × List Char) :=
  match s with
  | '\\' :: 'u' :: s => readNumbered s
  | '\\' :: c :: s => (escape? c).map (·, s)
  | c :: s => if c.toNat < 0x20 then none else some (c, s)
  | [] => none

theorem length_readNumbered {s rest : List Char} {c : Char}
    (h : readNumbered s = some (c, rest)) : rest.length ≤ s.length := by
  unfold readNumbered at h
  split at h
  · obtain ⟨_, -, h⟩ := Option.bind_eq_some_iff.1 h
    split at h
    · obtain ⟨-, rfl⟩ := Prod.mk.inj (Option.some.inj h)
      simp only [List.length_cons]
      omega
    · split at h
      · obtain ⟨_, -, h⟩ := Option.bind_eq_some_iff.1 h
        obtain ⟨_, -, h⟩ := Option.map_eq_some_iff.1 h
        obtain ⟨-, rfl⟩ := Prod.mk.inj h
        simp only [List.length_cons]
        omega
      · simp at h
  · simp at h

theorem length_readChar {s rest : List Char} {c : Char}
    (h : readChar s = some (c, rest)) : rest.length < s.length := by
  unfold readChar at h
  split at h
  · exact Nat.lt_succ_of_le (Nat.le_succ_of_le (length_readNumbered h))
  · obtain ⟨_, -, h⟩ := Option.map_eq_some_iff.1 h
    obtain ⟨-, rfl⟩ := Prod.mk.inj h
    simp only [List.length_cons]
    omega
  · split at h
    · simp at h
    · obtain ⟨-, rfl⟩ := Prod.mk.inj (Option.some.inj h)
      simp
  · simp at h

/-- Reads the rest of a text behind its opening quote, with what follows the closing quote. -/
def readText (s : List Char) : Option (List Char × List Char) :=
  if s.head? = some '\x22' then some ([], s.drop 1)
  else
    match _hc : readChar s with
    | some (c, t) => (readText t).map fun (inside, rest) => (c :: inside, rest)
    | none => none
termination_by s.length
decreasing_by exact length_readChar _hc

theorem length_readText {s inside rest : List Char} (h : readText s = some (inside, rest)) :
    rest.length ≤ s.length := by
  fun_induction readText s generalizing inside with
  | case1 s =>
    obtain ⟨-, rfl⟩ := Prod.mk.inj (Option.some.inj h)
    simp
  | case2 s _ c t hc ih =>
    obtain ⟨⟨i, r⟩, hi, he⟩ := Option.map_eq_some_iff.1 h
    obtain ⟨-, rfl⟩ := Prod.mk.inj he
    exact Nat.le_trans (ih hi) (Nat.le_of_lt (length_readChar hc))
  | case3 => simp at h

/-- The greatest and the least number that an order can be. -/
def orderBound : Nat := 0x8000000000000000

/-- Reads a whole number without leading zeros that an order can be. Zero has no sign. -/
def readInteger (s : List Char) : Option (Int × List Char) :=
  let negative := s.head? = some '-'
  let (digits, rest) := Text.spanDigits (if negative then s.drop 1 else s)
  let n := Text.ofDecimal digits
  if digits.isEmpty || (digits.head? = some '0' && digits.length != 1) then none
  else if negative then
    if 0 < n && n ≤ orderBound then some (-n, rest) else none
  else if n < orderBound then some ((n : Int), rest)
  else none

theorem length_readInteger {s rest : List Char} {n : Int}
    (h : readInteger s = some (n, rest)) : rest.length < s.length := by
  unfold readInteger at h
  dsimp only at h
  have hs : (if s.head? = some '-' then s.drop 1 else s).length ≤ s.length := by
    split <;> simp
  generalize (if s.head? = some '-' then s.drop 1 else s) = t at h hs
  have hl := congrArg List.length
    (List.takeWhile_append_dropWhile (p := Text.isAsciiDigit) (l := t))
  rw [List.length_append] at hl
  split at h
  · simp at h
  · next hd =>
    have hd : (Text.spanDigits t).1 ≠ [] := by simp_all
    have := List.length_pos_iff.2 hd
    have hrest : rest = (Text.spanDigits t).2 := by
      split at h
      · split at h <;> simp_all
      · split at h <;> simp_all
    rw [hrest]
    unfold Text.spanDigits at *
    dsimp only at *
    omega

/-- Reads a sign. -/
def readSign (s : List Char) : Option (Sign × List Char) :=
  match s with
  | '\x7b' :: s => some (.opened, s)
  | '\x7d' :: s => some (.closed, s)
  | '[' :: s => some (.listOpened, s)
  | ']' :: s => some (.listClosed, s)
  | ',' :: s => some (.comma, s)
  | ':' :: s => some (.colon, s)
  | 'n' :: 'u' :: 'l' :: 'l' :: s => some (.null, s)
  | '\x22' :: s => (readText s).map fun (inside, rest) => (.text inside, rest)
  | s => (readInteger s).map fun (n, rest) => (.integer n, rest)

theorem length_readSign {s rest : List Char} {sign : Sign}
    (h : readSign s = some (sign, rest)) : rest.length < s.length := by
  unfold readSign at h
  split at h
  case h_8 =>
    obtain ⟨_, hi, h⟩ := Option.map_eq_some_iff.1 h
    obtain ⟨-, rfl⟩ := Prod.mk.inj h
    exact Nat.lt_succ_of_le (length_readText hi)
  case h_9 =>
    obtain ⟨_, hi, h⟩ := Option.map_eq_some_iff.1 h
    obtain ⟨-, rfl⟩ := Prod.mk.inj h
    exact length_readInteger hi
  all_goals
    obtain ⟨-, rfl⟩ := Prod.mk.inj (Option.some.inj h)
    simp only [List.length_cons]
    omega

/-- Whether a character may stand between signs. -/
def isGap (c : Char) : Bool := c == ' ' || c == '\t' || c == '\n' || c == '\r'

/-- The signs of a text. -/
def signs (s : List Char) : Option (List Sign) :=
  match s with
  | [] => some []
  | c :: s =>
    if isGap c then signs s
    else
      match _hs : readSign (c :: s) with
      | some (sign, rest) => (signs rest).map (sign :: ·)
      | none => none
termination_by s.length
decreasing_by
  · simp
  · exact length_readSign _hs

/-! ## Members -/

/-- Splits a text with tags in it at commas and spaces. -/
def splitTags (s : List Char) : List String :=
  ((s.splitOnP fun c => c == ' ' || c == ',').filter fun t => !t.isEmpty).map String.ofList

/-- Reads the rest of a list of tags behind a bracket or a comma. -/
def readTagList : List Sign → Option (List String × List Sign)
  | .text t :: .comma :: s =>
    (readTagList s).map fun (tags, rest) => (String.ofList t :: tags, rest)
  | .text t :: .listClosed :: s => some ([String.ofList t], s)
  | _ => none

/-- Reads tags: a list of them, or a text. -/
def readTags : List Sign → Option (List String × List Sign)
  | .text t :: s => some (splitTags t, s)
  | .listOpened :: .listClosed :: s => some ([], s)
  | .listOpened :: s => readTagList s
  | _ => none

/-- Reads an order: a number, or nothing. -/
def readOrder : List Sign → Option (Option Int × List Sign)
  | .integer n :: s => some (some n, s)
  | .null :: s => some (none, s)
  | _ => none

theorem length_readTagList {s rest : List Sign} {tags : List String}
    (h : readTagList s = some (tags, rest)) : rest.length ≤ s.length := by
  fun_induction readTagList s generalizing tags with
  | case1 t s ih =>
    obtain ⟨⟨_, _⟩, hi, h⟩ := Option.map_eq_some_iff.1 h
    obtain ⟨-, rfl⟩ := Prod.mk.inj h
    exact Nat.le_succ_of_le (Nat.le_succ_of_le (ih hi))
  | case2 t s =>
    obtain ⟨-, rfl⟩ := Prod.mk.inj (Option.some.inj h)
    simp only [List.length_cons]
    omega
  | case3 => simp at h

theorem length_readTags {s rest : List Sign} {tags : List String}
    (h : readTags s = some (tags, rest)) : rest.length ≤ s.length := by
  unfold readTags at h
  split at h
  · obtain ⟨-, rfl⟩ := Prod.mk.inj (Option.some.inj h)
    simp
  · obtain ⟨-, rfl⟩ := Prod.mk.inj (Option.some.inj h)
    simp only [List.length_cons]
    omega
  · exact Nat.le_succ_of_le (length_readTagList h)
  · simp at h

theorem length_readOrder {s rest : List Sign} {order : Option Int}
    (h : readOrder s = some (order, rest)) : rest.length ≤ s.length := by
  unfold readOrder at h
  split at h
  · obtain ⟨-, rfl⟩ := Prod.mk.inj (Option.some.inj h)
    simp
  · obtain ⟨-, rfl⟩ := Prod.mk.inj (Option.some.inj h)
    simp
  · simp at h

/-- Reads the value of a member, whose name must be new. `seen` holds the names before it. -/
def readMember (seen : List String) (name : String) (a : Attributes) (s : List Sign) :
    Option (Attributes × List Sign) :=
  if seen.contains name then none
  else
    match name with
    | "order" => (readOrder s).map fun (order, rest) => ({ a with order }, rest)
    | "categories" => (readTags s).map fun (categories, rest) => ({ a with categories }, rest)
    | "options" => (readTags s).map fun (options, rest) => ({ a with options }, rest)
    | _ => none

theorem length_readMember {seen : List String} {name : String} {a b : Attributes}
    {s rest : List Sign} (h : readMember seen name a s = some (b, rest)) :
    rest.length ≤ s.length := by
  unfold readMember at h
  split at h
  · simp at h
  · split at h
    · obtain ⟨_, hi, h⟩ := Option.map_eq_some_iff.1 h
      obtain ⟨-, rfl⟩ := Prod.mk.inj h
      exact length_readOrder hi
    · obtain ⟨_, hi, h⟩ := Option.map_eq_some_iff.1 h
      obtain ⟨-, rfl⟩ := Prod.mk.inj h
      exact length_readTags hi
    · obtain ⟨_, hi, h⟩ := Option.map_eq_some_iff.1 h
      obtain ⟨-, rfl⟩ := Prod.mk.inj h
      exact length_readTags hi
    · simp at h

/-- Reads the members behind a brace or a comma, up to the closing brace at the end. -/
def readMembers (seen : List String) (a : Attributes) (s : List Sign) : Option Attributes :=
  match s with
  | .text t :: .colon :: s =>
    let name := String.ofList t
    match _hm : readMember seen name a s with
    | some (a, .comma :: rest) => readMembers (name :: seen) a rest
    | some (a, [.closed]) => some a
    | _ => none
  | _ => none
termination_by s.length
decreasing_by
  have := length_readMember _hm
  simp only [List.length_cons] at this ⊢
  omega

/-- Reads the attributes of a rule, braces included. -/
def read? (s : List Char) : Option Attributes :=
  match signs s with
  | some [.opened, .closed] => some {}
  | some (.opened :: rest) => readMembers [] {} rest
  | _ => none

end Attributes

end Lexigram.Document
