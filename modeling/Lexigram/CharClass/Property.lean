import Lexigram.CharClass
import Lexigram.Text.Casing
import Lexigram.Text.Emoji
import Lexigram.Text.Identifier
import Lexigram.Text.Ideograph
import Lexigram.Text.Modifier
import Lexigram.Text.Property
import Lexigram.Text.Punctuation
import Lexigram.Text.Script
import Lexigram.Text.Segmentation

/-!
# Classes of properties

The properties of the Unicode Character Database as classes. Many of them are derived: they are
stated here as the database defines them, from the general categories and a few tables.
-/

namespace Lexigram.CharClass

open Text

/-- The characters of some general categories. -/
def ofCategories (ks : List Category) : CharClass := ofTables (ks.map Category.stretches)

/-- The code points that no category holds. -/
def unassigned : CharClass := complement (ofCategories Category.assigned)

/-! ## Words -/

def blank : CharClass := among blankStretches

def digit : CharClass := among Category.decimalNumber.stretches

def word : CharClass := ofTables wordTables

def alphabetic : CharClass := ofTables alphabeticTables

def uppercase : CharClass := ofTables uppercaseTables

def lowercase : CharClass := ofTables lowercaseTables

/-- The characters that have a case. -/
def cased : CharClass :=
  union lowercase (union uppercase (among Category.titlecaseLetter.stretches))

/-- The characters that do not count when the case of their neighbours is compared. -/
def caseIgnorable : CharClass :=
  union (among caseIgnorableStretches)
    (ofCategories [.nonspacingMark, .enclosingMark, .format, .modifierLetter, .modifierSymbol])

/-- The characters that change with the case of a text. -/
def unlikeCased : CharClass :=
  ofTables [unlikeLowerStretches, unlikeUpperStretches, unlikeTitleStretches]

/-! ## Identifiers -/

/-- The characters that no identifier has. -/
def reserved : CharClass := ofTables [patternSyntaxStretches, patternBlankStretches]

def idStart : CharClass :=
  difference
    (union (ofCategories (Category.letters ++ [Category.letterNumber]))
      (among otherIdStartStretches))
    reserved

def idContinue : CharClass :=
  difference
    (union idStart
      (union
        (ofCategories [.nonspacingMark, .spacingMark, .decimalNumber, .connectorPunctuation])
        (among otherIdContinueStretches)))
    reserved

/-- The characters that may begin an identifier, also when it is spelled compatibly. -/
def compatibleStart : CharClass :=
  difference idStart (ofTables [incompatibleStretches, detachedMarkStretches])

/-- The characters that may stand inside an identifier, also when it is spelled compatibly. -/
def compatibleContinue : CharClass := difference idContinue (among incompatibleStretches)

/-! ## Visible characters -/

/-- The characters that extend the one before them. -/
def extending : CharClass := ofTables extenderTables

/-- The characters that can stand on their own. -/
def base : CharClass :=
  difference (ofCategories (visibleCategories ++ [Category.spaceSeparator])) extending

/-- The annotations and the controls of hieroglyphs, which are shown although they are format
characters. -/
def shownFormat : CharClass := among [⟨0xFFF9, 0xFFFB, 1⟩, ⟨0x13430, 0x13440, 1⟩]

/-- The characters that are not shown where they are not supported. -/
def defaultIgnorable : CharClass :=
  difference
    (ofTables [ignorableStretches, Category.format.stretches, variationSelectorStretches])
    (union blank (union shownFormat (among leadingMarkStretches)))

def math : CharClass := ofTables [Category.mathSymbol.stretches, otherMathStretches]

/-! ## Scripts -/

/-- The characters of a script, those that it shares with some others included. -/
def ofScriptExtension (s : Script) : CharClass :=
  union (difference (among s.stretches) (among Script.sharedStretches)) (among s.shared)

end Lexigram.CharClass
