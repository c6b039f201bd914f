import Lexigram.Text.Category.Letter
import Lexigram.Text.Category.Mark
import Lexigram.Text.Category.Number
import Lexigram.Text.Category.Punctuation
import Lexigram.Text.Category.Symbol
import Lexigram.Text.Category.Other

/-!
# General categories

The general category of Unicode sorts every code point into one class. A `Category` names one of
them, and `Category.stretches` finds its table among those beside this file.
-/

namespace Lexigram.Text

/-- The general categories, without the one of unassigned code points. -/
inductive Category where
  | uppercaseLetter | lowercaseLetter | titlecaseLetter | modifierLetter | otherLetter
  | nonspacingMark | spacingMark | enclosingMark
  | decimalNumber | letterNumber | otherNumber
  | connectorPunctuation | dashPunctuation | openPunctuation | closePunctuation
  | initialPunctuation | finalPunctuation | otherPunctuation
  | mathSymbol | currencySymbol | modifierSymbol | otherSymbol
  | spaceSeparator | lineSeparator | paragraphSeparator
  | control | format | surrogate | privateUse
  deriving DecidableEq, Repr

namespace Category

/-- The code points of a category. -/
def stretches : Category → List Stretch
  | uppercaseLetter => uppercaseLetterStretches
  | lowercaseLetter => lowercaseLetterStretches
  | titlecaseLetter => titlecaseLetterStretches
  | modifierLetter => modifierLetterStretches
  | otherLetter => otherLetterStretches
  | nonspacingMark => nonspacingMarkStretches
  | spacingMark => spacingMarkStretches
  | enclosingMark => enclosingMarkStretches
  | decimalNumber => decimalNumberStretches
  | letterNumber => letterNumberStretches
  | otherNumber => otherNumberStretches
  | connectorPunctuation => connectorPunctuationStretches
  | dashPunctuation => dashPunctuationStretches
  | openPunctuation => openPunctuationStretches
  | closePunctuation => closePunctuationStretches
  | initialPunctuation => initialPunctuationStretches
  | finalPunctuation => finalPunctuationStretches
  | otherPunctuation => otherPunctuationStretches
  | mathSymbol => mathSymbolStretches
  | currencySymbol => currencySymbolStretches
  | modifierSymbol => modifierSymbolStretches
  | otherSymbol => otherSymbolStretches
  | spaceSeparator => spaceSeparatorStretches
  | lineSeparator => lineSeparatorStretches
  | paragraphSeparator => paragraphSeparatorStretches
  | control => controlStretches
  | format => formatStretches
  | surrogate => surrogateStretches
  | privateUse => privateUseStretches

/-- The letters of every kind. -/
def letters : List Category :=
  [uppercaseLetter, lowercaseLetter, titlecaseLetter, modifierLetter, otherLetter]

/-- The combining marks of every kind. -/
def marks : List Category := [nonspacingMark, spacingMark, enclosingMark]

/-- The numbers of every kind. -/
def numbers : List Category := [decimalNumber, letterNumber, otherNumber]

/-- The punctuation of every kind. -/
def punctuation : List Category :=
  [connectorPunctuation, dashPunctuation, openPunctuation, closePunctuation,
    initialPunctuation, finalPunctuation, otherPunctuation]

/-- The symbols of every kind. -/
def symbols : List Category := [mathSymbol, currencySymbol, modifierSymbol, otherSymbol]

/-- The separators of every kind. -/
def separators : List Category := [spaceSeparator, lineSeparator, paragraphSeparator]

/-- The assigned code points that are neither visible nor separators. -/
def others : List Category := [control, format, surrogate, privateUse]

/-- All categories of assigned code points. -/
def assigned : List Category :=
  letters ++ marks ++ numbers ++ punctuation ++ symbols ++ separators ++ others

end Category

/-- Whether a character is in one of some tables. -/
def anyTableContains (tables : List (List Stretch)) (c : Char) : Bool :=
  tables.any fun ss => Stretch.anyContains c.toNat ss

end Lexigram.Text
