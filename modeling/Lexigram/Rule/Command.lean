import Lexigram.Text.Property

/-!
# Commands

A rule may end in an arrow and a command: a name, and parameters in parentheses. The command is
kept for whoever uses the grammar, except that `skip` also sets the option of that name.
-/

namespace Lexigram

/-- What is to be done with a match. -/
structure Command where
  name : String
  parameters : List String
  deriving DecidableEq, Repr

namespace Command

/-- Splits a text at its commas. -/
def splitCommas (s : List Char) : List (List Char) := s.splitOn ','

/-- Reads the parameters from the inside of the parentheses; blank ones are left out. -/
def readParameters (inside : List Char) : List String :=
  ((splitCommas inside).map Text.trim).filter (fun p => !p.isEmpty) |>.map String.ofList

/-- Reads a command: a name and, after blanks, parentheses that close at the end of the text and
hold no line feed. -/
def read? (src : List Char) : Option Command :=
  let s := Text.trimStart src
  let name := s.takeWhile Text.isWord
  let rest := Text.trim (s.dropWhile Text.isWord)
  if name.isEmpty then none
  else
    match rest with
    | [] => some ⟨String.ofList name, []⟩
    | '(' :: tail =>
      match tail.reverse with
      | ')' :: inside =>
        if inside.contains '\n' then none
        else some ⟨String.ofList name, readParameters inside.reverse⟩
      | _ => none
    | _ => none

/-- A command as it is written behind a rule. -/
def render (c : Command) : String :=
  if c.parameters.isEmpty then s!"-> {c.name}"
  else s!"-> {c.name}(" ++ ", ".intercalate c.parameters ++ ")"

end Command

end Lexigram
