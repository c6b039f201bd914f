import Lexigram.Grammar
import Lexigram.Text.Quoted

/-!
# Displaying grammars

A rule is shown in the form in which a grammar document declares it, and a grammar as the lines of
such a document.
-/

namespace Lexigram

/-- An atom with its mark around what it tests. -/
def Mark.render (m : Mark) (inside : List Char) : List Char :=
  (if m.inverted then ['~'] else []) ++ inside ++ m.quantifier.render

mutual

/-- An atom as it is written in a rule. -/
def Atom.render : Atom → List Char
  | .leaf m l => m.render l.value
  | .reference m name => m.render name.toList
  | .group m lookahead _ alternatives =>
    m.render
      ((if lookahead then ['(', '?', '!'] else ['(']) ++ Atom.renderAlternatives alternatives ++
        [')'])

/-- Atoms as they are written in a rule. -/
def Atom.renderChain : List Atom → List Char
  | [] => []
  | [a] => a.render
  | a :: atoms => a.render ++ [' '] ++ Atom.renderChain atoms

/-- Alternatives as they are written in a rule. -/
def Atom.renderAlternatives : List (List Atom) → List Char
  | [] => []
  | [atoms] => Atom.renderChain atoms
  | atoms :: alternatives =>
    Atom.renderChain atoms ++ [' ', '|', ' '] ++ Atom.renderAlternatives alternatives

end

theorem Atom.renderChain_single (a : Atom) : renderChain [a] = a.render := by rw [renderChain]

theorem Atom.renderChain_cons (a b : Atom) (atoms : List Atom) :
    renderChain (a :: b :: atoms) = a.render ++ [' '] ++ renderChain (b :: atoms) := by
  rw [renderChain]
  simp

theorem Atom.renderAlternatives_single (atoms : List Atom) :
    renderAlternatives [atoms] = renderChain atoms := by rw [renderAlternatives]

theorem Atom.renderAlternatives_cons (atoms others : List Atom)
    (alternatives : List (List Atom)) :
    renderAlternatives (atoms :: others :: alternatives) =
      renderChain atoms ++ [' ', '|', ' '] ++ renderAlternatives (others :: alternatives) := by
  rw [renderAlternatives]
  simp

namespace Rule

/-- Tags between double quotes, in a row. -/
def renderTags (tags : List String) : String := ", ".intercalate (tags.map Text.quoted)

/-- The attributes of a rule that a document would state in braces. -/
def renderAttributes (r : Rule) : List String :=
  let options := r.options.tags.filter (· != "fragment")
  (if r.order = lastOrder then [] else [s!"\"order\": {r.order}"]) ++
    (if r.categories.isEmpty then [] else [s!"\"categories\": [{renderTags r.categories}]"]) ++
    (if options.isEmpty then [] else [s!"\"options\": [{renderTags options}]"])

/-- A rule as a document declares it. -/
def render (r : Rule) : String :=
  let attributes := r.renderAttributes
  (if r.options.fragment then "fragment " else "") ++ r.id ++
    (if attributes.isEmpty then ""
      else " \x7b " ++ ", ".intercalate attributes ++ " \x7d") ++
    ": " ++ String.ofList (Atom.renderAlternatives r.alternatives) ++
    (match r.command with
      | some c => " " ++ c.render
      | none => "") ++
    ";"

end Rule

/-- A grammar as a document. -/
def Grammar.render (g : Grammar) : String :=
  (match g.name with
    | some name => s!"grammar {name};\n"
    | none => "") ++
  (match g.parent with
    | some parent => s!"import {parent};\n"
    | none => "") ++
  String.join (g.rules.map fun r => r.render ++ "\n")

end Lexigram
