import Lexigram.Text.Alphabetic

/-!
# Character properties

The classes of characters that grammars, documents and printed text depend on. Each is given by
general categories and the few characters that the Unicode Character Database adds to them.
-/

namespace Lexigram.Text

/-- The characters with the property White_Space. -/
def blankStretches : List Stretch :=
  [⟨0x9, 0xD, 1⟩, ⟨0x20, 0x20, 1⟩, ⟨0x85, 0x85, 1⟩, ⟨0xA0, 0xA0, 1⟩, ⟨0x1680, 0x1680, 1⟩,
    ⟨0x2000, 0x200A, 1⟩, ⟨0x2028, 0x2029, 1⟩, ⟨0x202F, 0x202F, 1⟩, ⟨0x205F, 0x205F, 1⟩,
    ⟨0x3000, 0x3000, 1⟩]

/-- Whether a character is white space. -/
def isBlank (c : Char) : Bool := Stretch.anyContains c.toNat blankStretches

/-- Whether a character is one of the five blanks that may stand between the atoms of a rule body:
space, tab, line feed, form feed and carriage return. -/
def isAsciiBlank (c : Char) : Bool :=
  c == ' ' || c == '\t' || c == '\n' || c == '\x0c' || c == '\r'

theorem isBlank_of_isAsciiBlank {c : Char} (h : isAsciiBlank c = true) : isBlank c = true := by
  simp only [isAsciiBlank, Bool.or_eq_true, beq_iff_eq] at h
  rcases h with (((rfl | rfl) | rfl) | rfl) | rfl <;> decide

/-- The zero width joiner and its opposite. -/
def joinerStretches : List Stretch := [⟨0x200C, 0x200D, 1⟩]

/-- The characters that may stand in a word: letters and what counts as such, marks, decimal digits,
connectors and the two joiners. -/
def wordTables : List (List Stretch) :=
  alphabeticTables ++ Category.marks.map Category.stretches ++
    [Category.decimalNumber.stretches, Category.connectorPunctuation.stretches, joinerStretches]

/-- Whether a character may stand in a word. -/
def isWord (c : Char) : Bool := anyTableContains wordTables c

/-- Spacing marks and other characters that extend the one before them. -/
def extenderStretches : List Stretch :=
  [⟨0x9BE, 0x9BE, 1⟩, ⟨0x9D7, 0x9D7, 1⟩, ⟨0xB3E, 0xB3E, 1⟩, ⟨0xB57, 0xB57, 1⟩,
    ⟨0xBBE, 0xBBE, 1⟩, ⟨0xBD7, 0xBD7, 1⟩, ⟨0xCC0, 0xCC0, 1⟩, ⟨0xCC2, 0xCC2, 1⟩,
    ⟨0xCC7, 0xCC8, 1⟩, ⟨0xCCA, 0xCCB, 1⟩, ⟨0xCD5, 0xCD6, 1⟩, ⟨0xD3E, 0xD3E, 1⟩,
    ⟨0xD57, 0xD57, 1⟩, ⟨0xDCF, 0xDCF, 1⟩, ⟨0xDDF, 0xDDF, 1⟩, ⟨0x1715, 0x1715, 1⟩,
    ⟨0x1734, 0x1734, 1⟩, ⟨0x1B35, 0x1B35, 1⟩, ⟨0x1B3B, 0x1B3B, 1⟩, ⟨0x1B3D, 0x1B3D, 1⟩,
    ⟨0x1B43, 0x1B44, 1⟩, ⟨0x1BAA, 0x1BAA, 1⟩, ⟨0x1BF2, 0x1BF3, 1⟩, ⟨0x200C, 0x200C, 1⟩,
    ⟨0x302E, 0x302F, 1⟩, ⟨0xA953, 0xA953, 1⟩, ⟨0xA9C0, 0xA9C0, 1⟩, ⟨0xFF9E, 0xFF9F, 1⟩,
    ⟨0x111C0, 0x111C0, 1⟩, ⟨0x11235, 0x11235, 1⟩, ⟨0x1133E, 0x1133E, 1⟩,
    ⟨0x1134D, 0x1134D, 1⟩, ⟨0x11357, 0x11357, 1⟩, ⟨0x113B8, 0x113B8, 1⟩,
    ⟨0x113C2, 0x113C2, 1⟩, ⟨0x113C5, 0x113C5, 1⟩, ⟨0x113C7, 0x113C9, 1⟩,
    ⟨0x113CF, 0x113CF, 1⟩, ⟨0x114B0, 0x114B0, 1⟩, ⟨0x114BD, 0x114BD, 1⟩,
    ⟨0x115AF, 0x115AF, 1⟩, ⟨0x116B6, 0x116B6, 1⟩, ⟨0x11930, 0x11930, 1⟩,
    ⟨0x1193D, 0x1193D, 1⟩, ⟨0x11F41, 0x11F41, 1⟩, ⟨0x16FF0, 0x16FF1, 1⟩,
    ⟨0x1D165, 0x1D166, 1⟩, ⟨0x1D16D, 0x1D172, 1⟩, ⟨0xE0020, 0xE007F, 1⟩]

/-- The characters with the property Grapheme_Extend: those that extend the one before them. -/
def extenderTables : List (List Stretch) :=
  [Category.nonspacingMark.stretches, Category.enclosingMark.stretches, extenderStretches]

/-- The voicing marks of half width, which extend the character before them and can be seen on their
own all the same. -/
def voicingMarkStretches : List Stretch := [⟨0xFF9E, 0xFF9F, 1⟩]

/-- Whether a character extends the one before it so that it cannot be seen on its own, recent
characters included. -/
def isExtender (c : Char) : Bool :=
  (anyTableContains extenderTables c && !Stretch.anyContains c.toNat voicingMarkStretches) ||
    Stretch.anyContains c.toNat recentExtenderStretches

/-- Letters without a shape: they fill the place of a missing one. -/
def fillerStretches : List Stretch :=
  [⟨0x115F, 0x1160, 1⟩, ⟨0x3164, 0x3164, 1⟩, ⟨0xFFA0, 0xFFA0, 1⟩]

/-- The categories of characters that can be seen. -/
def visibleCategories : List Category :=
  Category.letters ++ Category.marks ++ Category.numbers ++ Category.punctuation ++
    Category.symbols

/-- Whether a character can be seen when it is printed: assigned, recent characters included, and
neither a filler nor a control, format, private-use or separator character, with the exception of
the space. -/
def isPrintable (c : Char) : Bool :=
  c == ' ' ||
    (anyTableContains (visibleCategories.map Category.stretches) c &&
      !Stretch.anyContains c.toNat fillerStretches) ||
    Stretch.anyContains c.toNat recentStretches

/-- A text without the white space at its beginning. -/
def trimStart (s : List Char) : List Char := s.dropWhile isBlank

/-- A text without the white space at its end. -/
def trimEnd (s : List Char) : List Char := (s.reverse.dropWhile isBlank).reverse

/-- A text without the white space around it. -/
def trim (s : List Char) : List Char := trimEnd (trimStart s)

end Lexigram.Text
