import Lexigram.CharClass.Property

/-!
# Classes of breaks

Where a text may be cut into units, words and sentences depends on classes of characters. They are
stated here as the Unicode Character Database, version 16.0, derives them. What is in no class of a
kind has no name there.
-/

namespace Lexigram.CharClass

open Text

def carriageReturn : CharClass := single '\r'

def lineFeed : CharClass := single '\n'

def zeroWidthJoiner : CharClass := single '\u200d'

/-- The class of the characters of a script with a given name. -/
def ofScript (name : String) : CharClass :=
  match Script.ofName? name with
  | some s => among s.stretches
  | none => empty

/-- The union of some classes. -/
def anyOf (as : List CharClass) : CharClass := as.foldr union empty

/-- The characters of a class that are in none of some others. -/
def without (a : CharClass) (bs : List CharClass) : CharClass := difference a (anyOf bs)

/-! ## Units -/

/-- The characters that belong to the unit before them. -/
def unitExtend : CharClass :=
  without (union extending (among emojiModifierStretches)) [zeroWidthJoiner]

def unitPrepend : CharClass := ofTables [leadingMarkStretches, precedingConsonantStretches]

def unitControl : CharClass :=
  without
    (union (ofCategories [.lineSeparator, .paragraphSeparator, .control, .format])
      (intersection unassigned defaultIgnorable))
    [carriageReturn, lineFeed, zeroWidthJoiner, single '\u200c', among leadingMarkStretches,
      unitExtend]

def unitSpacingMark : CharClass :=
  union (without (among Category.spacingMark.stretches) [extending, among separateMarkStretches])
    (ofNumbers [0xE33, 0xEB3])

/-- The classes that keep units together, by their names. -/
def unitBreaks : List (List String × CharClass) :=
  [ (["cn", "control"], unitControl),
    (["cr"], carriageReturn),
    (["ex", "extend"], unitExtend),
    (["l"], among leadingConsonantStretches),
    (["lf"], lineFeed),
    (["lv"], among openSyllableStretches),
    (["lvt"], difference (among syllableStretches) (among openSyllableStretches)),
    (["pp", "prepend"], unitPrepend),
    (["ri", "regionalindicator"], among regionalIndicatorStretches),
    (["sm", "spacingmark"], unitSpacingMark),
    (["t"], among trailingConsonantStretches),
    (["v"], ofTables [vowelStretches, kiratVowelStretches]),
    (["zwj"], zeroWidthJoiner) ]

/-! ## Words -/

/-- The marks in front of numbers, without the one that stands in front of an abbreviation. -/
def numberMark : CharClass := without (among leadingMarkStretches) [single '\u070f']

/-- The characters of numbers. -/
def numeric : CharClass := anyOf [digit, numberMark, ofNumbers [0x66B, 0x66C]]

def wordExtend : CharClass :=
  without
    (anyOf [extending, among Category.spacingMark.stretches, among emojiModifierStretches])
    [zeroWidthJoiner]

def wordFormat : CharClass :=
  without (among Category.format.stretches)
    [range '\u200b' '\u200d', among leadingMarkStretches, wordExtend]

def wordKatakana : CharClass :=
  union (ofScript "kana")
    (union (range '\u3031' '\u3035') (ofNumbers [0x309B, 0x309C, 0x30A0, 0x30FC, 0xFF70]))

def wordHebrew : CharClass :=
  intersection (ofScript "hebr") (among Category.otherLetter.stretches)

/-- Signs that count as letters although they are none. -/
def wordSignStretches : List Stretch :=
  [⟨0x2C2, 0x2C5, 1⟩, ⟨0x2D2, 0x2D7, 1⟩, ⟨0x2DE, 0x2DF, 1⟩, ⟨0x2E5, 0x2EB, 1⟩, ⟨0x2ED, 0x2ED, 1⟩,
   ⟨0x2EF, 0x2FF, 1⟩, ⟨0x55A, 0x55C, 1⟩, ⟨0x55E, 0x55E, 1⟩, ⟨0x58A, 0x58A, 1⟩, ⟨0x5F3, 0x5F3, 1⟩,
   ⟨0x70F, 0x70F, 1⟩, ⟨0xA708, 0xA716, 1⟩, ⟨0xA720, 0xA721, 1⟩, ⟨0xA789, 0xA78A, 1⟩,
   ⟨0xAB5B, 0xAB5B, 1⟩]

def wordLetter : CharClass :=
  without (union alphabetic (among wordSignStretches))
    [among ideographStretches, wordKatakana, among contextualLetterStretches, ofScript "hira",
      wordExtend, wordHebrew]

/-- The classes that keep words together, by their names. -/
def wordBreaks : List (List String × CharClass) :=
  [ (["cr"], carriageReturn),
    (["dq", "doublequote"], single '\x22'),
    (["ex", "extendnumlet"],
      union (among Category.connectorPunctuation.stretches) (single '\u202f')),
    (["extend"], wordExtend),
    (["fo", "format"], wordFormat),
    (["hl", "hebrewletter"], wordHebrew),
    (["ka", "katakana"], wordKatakana),
    (["le", "aletter"], wordLetter),
    (["lf"], lineFeed),
    (["mb", "midnumlet"], ofNumbers [0x2E, 0x2018, 0x2019, 0x2024, 0xFE52, 0xFF07, 0xFF0E]),
    (["ml", "midletter"],
      ofNumbers [0x3A, 0xB7, 0x387, 0x55F, 0x5F4, 0x2027, 0xFE13, 0xFE55, 0xFF1A]),
    (["mn", "midnum"],
      ofNumbers [0x2C, 0x3B, 0x37E, 0x589, 0x60C, 0x60D, 0x66C, 0x7F8, 0x2044, 0xFE10, 0xFE14,
        0xFE50, 0xFE54, 0xFF0C, 0xFF1B]),
    (["nl", "newline"], ofNumbers [0xB, 0xC, 0x85, 0x2028, 0x2029]),
    (["nu", "numeric"], without numeric [single '\u066c']),
    (["ri", "regionalindicator"], among regionalIndicatorStretches),
    (["sq", "singlequote"], single '\x27'),
    (["wsegspace"],
      difference (among Category.spaceSeparator.stretches) (ofNumbers [0xA0, 0x2007, 0x202F])),
    (["zwj"], zeroWidthJoiner) ]

/-! ## Sentences -/

/-- The Georgian letters, whose case has no say in where a sentence begins. -/
def georgianSmall : CharClass := among [⟨0x10D0, 0x10FA, 1⟩, ⟨0x10FD, 0x10FF, 1⟩]

def georgianCapital : CharClass := among [⟨0x1C90, 0x1CBA, 1⟩, ⟨0x1CBD, 0x1CBF, 1⟩]

def sentenceExtend : CharClass :=
  anyOf [extending, zeroWidthJoiner, among Category.spacingMark.stretches]

def sentenceSeparator : CharClass := ofNumbers [0x85, 0x2028, 0x2029]

def sentenceFormat : CharClass :=
  without (among Category.format.stretches)
    [zeroWidthJoiner, single '\u200c', sentenceExtend, numeric]

def sentenceLower : CharClass := without lowercase [extending, georgianSmall]

def sentenceUpper : CharClass :=
  without (union uppercase (among Category.titlecaseLetter.stretches)) [georgianCapital]

/-- Full stops, which may also end an abbreviation. -/
def fullStop : CharClass := ofNumbers [0x2E, 0x2024, 0xFE52, 0xFF0E]

def sentenceEnd : CharClass := without (among sentenceTerminalStretches) [fullStop]

/-- Punctuation after which a sentence goes on. -/
def sentenceContinueStretches : List Stretch :=
  [⟨0x2C, 0x2D, 1⟩, ⟨0x3A, 0x3B, 1⟩, ⟨0x37E, 0x37E, 1⟩, ⟨0x55D, 0x55D, 1⟩, ⟨0x60C, 0x60D, 1⟩,
   ⟨0x7F8, 0x7F8, 1⟩, ⟨0x1802, 0x1802, 1⟩, ⟨0x1808, 0x1808, 1⟩, ⟨0x2013, 0x2014, 1⟩,
   ⟨0x3001, 0x3001, 1⟩, ⟨0xFE10, 0xFE11, 1⟩, ⟨0xFE13, 0xFE14, 1⟩, ⟨0xFE31, 0xFE32, 1⟩,
   ⟨0xFE50, 0xFE51, 1⟩, ⟨0xFE54, 0xFE55, 1⟩, ⟨0xFE58, 0xFE58, 1⟩, ⟨0xFE63, 0xFE63, 1⟩,
   ⟨0xFF0C, 0xFF0D, 1⟩, ⟨0xFF1A, 0xFF1B, 1⟩, ⟨0xFF64, 0xFF64, 1⟩]

/-- Quotation marks that do not tell whether they open or close. -/
def neutralQuoteStretches : List Stretch :=
  [⟨0x22, 0x22, 1⟩, ⟨0x27, 0x27, 1⟩, ⟨0x275B, 0x2760, 1⟩, ⟨0x2E00, 0x2E01, 1⟩,
   ⟨0x2E06, 0x2E08, 1⟩, ⟨0x2E0B, 0x2E0B, 1⟩, ⟨0x1F676, 0x1F678, 1⟩]

def sentenceClose : CharClass :=
  without
    (union
      (ofCategories [.openPunctuation, .closePunctuation, .initialPunctuation, .finalPunctuation])
      (among neutralQuoteStretches))
    [fullStop, sentenceEnd]

def sentenceLetter : CharClass :=
  without (anyOf [alphabetic, single '\u05f3', georgianSmall, georgianCapital])
    [sentenceLower, sentenceUpper, sentenceExtend]

/-- The classes that keep sentences together, by their names. -/
def sentenceBreaks : List (List String × CharClass) :=
  [ (["at", "aterm"], fullStop),
    (["cl", "close"], sentenceClose),
    (["cr"], carriageReturn),
    (["ex", "extend"], sentenceExtend),
    (["fo", "format"], sentenceFormat),
    (["le", "oletter"], sentenceLetter),
    (["lf"], lineFeed),
    (["lo", "lower"], sentenceLower),
    (["nu", "numeric"], numeric),
    (["sc", "scontinue"], among sentenceContinueStretches),
    (["se", "sep"], sentenceSeparator),
    (["sp"], without blank [sentenceSeparator, carriageReturn, lineFeed]),
    (["st", "sterm"], sentenceEnd),
    (["up", "upper"], sentenceUpper) ]

end Lexigram.CharClass
