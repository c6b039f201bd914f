import Lexigram.Text.Property

/-!
# Flags

Flags change how an expression is read. They are written behind `(?`, each by a letter; those behind
a hyphen are switched off. Two things can follow: a closing bracket, and the flags hold from there
to the end of the group around them, or a colon, and they hold for the group that it begins.
-/

namespace Lexigram

/-- A flag of expressions. -/
inductive Flag where
  /-- Case does not count. -/
  | caseless
  /-- Circumflex and dollar stand at the ends of lines and not only of the text. -/
  | multiline
  /-- The full stop stands for line feeds too. -/
  | dotAll
  /-- Repetitions are lazy, and greedy with a question mark. -/
  | swapGreed
  /-- Classes are those of the whole character set and not of ASCII alone. -/
  | wide
  /-- Carriage returns end lines too. -/
  | returns
  /-- Blanks and comments do not count. -/
  | spaced
  deriving DecidableEq, Repr

/-- The flag that a letter names. -/
def Flag.ofLetter? : Char → Option Flag
  | 'i' => some caseless
  | 'm' => some multiline
  | 's' => some dotAll
  | 'U' => some swapGreed
  | 'u' => some wide
  | 'R' => some returns
  | 'x' => some spaced
  | _ => none

/-- Which flags are on. -/
structure Flags where
  caseless : Bool
  multiline : Bool
  dotAll : Bool
  swapGreed : Bool
  wide : Bool
  returns : Bool
  spaced : Bool
  deriving DecidableEq, Repr

namespace Flags

/-- The flags at the beginning of an expression. -/
def standard : Flags := ⟨false, false, false, false, true, false, false⟩

/-- Switches a flag. -/
def switch (f : Flags) (flag : Flag) (on : Bool) : Flags :=
  match flag with
  | .caseless => { f with caseless := on }
  | .multiline => { f with multiline := on }
  | .dotAll => { f with dotAll := on }
  | .swapGreed => { f with swapGreed := on }
  | .wide => { f with wide := on }
  | .returns => { f with returns := on }
  | .spaced => { f with spaced := on }

/-- What is written behind `(?`: the flags as they are then, whether a colon follows them, and what
follows that. -/
structure Setting where
  flags : Flags
  opensGroup : Bool
  rest : List Char

/-- Reads flags. `seen` are those read before, `on` is false behind a hyphen, and `fresh` says that
the hyphen has just been read. No flag may be named twice, a hyphen must not be the last sign, and
flags that begin no group must name one. -/
def readSetting? (f : Flags) (seen : List Flag) (on fresh : Bool) : List Char → Option Setting
  | [] => none
  | ':' :: rest => if fresh then none else some ⟨f, true, rest⟩
  | ')' :: rest => if fresh || seen.isEmpty then none else some ⟨f, false, rest⟩
  | '-' :: rest => if on then f.readSetting? seen false true rest else none
  | c :: rest =>
    match Flag.ofLetter? c with
    | some flag =>
      if seen.contains flag then none
      else (f.switch flag on).readSetting? (flag :: seen) on false rest
    | none => none

/-- Leaves out blanks and comments, which run from a number sign to the end of the line. -/
def skipBlanks (inComment : Bool) : List Char → List Char
  | [] => []
  | c :: s =>
    if inComment then skipBlanks (c != '\n') s
    else if Text.isBlank c then skipBlanks false s
    else if c = '#' then skipBlanks true s
    else c :: s

/-- Leaves out what does not count. -/
def skip (f : Flags) (s : List Char) : List Char := if f.spaced then skipBlanks false s else s

theorem length_skipBlanks (inComment : Bool) (s : List Char) :
    (skipBlanks inComment s).length ≤ s.length := by
  induction s generalizing inComment with
  | nil => exact Nat.le_refl _
  | cons c s ih =>
    unfold skipBlanks
    split
    · exact Nat.le_succ_of_le (ih _)
    · split
      · exact Nat.le_succ_of_le (ih _)
      · split
        · exact Nat.le_succ_of_le (ih _)
        · exact Nat.le_refl _

theorem length_skip (f : Flags) (s : List Char) : (f.skip s).length ≤ s.length := by
  unfold skip
  split
  · exact length_skipBlanks false s
  · exact Nat.le_refl _

end Flags

end Lexigram
