import Lexigram.Text.Property

/-!
# Quoted text

Texts that appear in token lists, trees and displayed attributes stand between double quotes, with
an escape for every character that could not be read off the page: the quote and the backslash,
the usual control characters by letter, and extending or unprintable characters by number.
-/

namespace Lexigram.Text

/-- The lower-case hexadecimal digits of a number, without leading zeros. -/
def hexDigits (n : Nat) : List Char := Nat.toDigits 16 n

/-- The escape of a character by its number. -/
def numericEscape (c : Char) : List Char :=
  ['\\', 'u', '\x7b'] ++ hexDigits c.toNat ++ ['\x7d']

/-- How one character is written between double quotes. -/
def quotedChar (c : Char) : List Char :=
  if c == '\x00' then ['\\', '0']
  else if c == '\t' then ['\\', 't']
  else if c == '\r' then ['\\', 'r']
  else if c == '\n' then ['\\', 'n']
  else if c == '\x22' || c == '\\' then ['\\', c]
  else if isExtender c then numericEscape c
  else if isPrintable c then [c]
  else numericEscape c

/-- A text between double quotes. -/
def quoted (s : String) : String :=
  String.ofList (['\x22'] ++ s.toList.flatMap quotedChar ++ ['\x22'])

/-- How a single character is shown in a message: visible ASCII as it is, tab, carriage return, line
feed, quotes and the backslash by an escape, and all else by number. -/
def asciiEscaped (c : Char) : List Char :=
  if c == '\t' then ['\\', 't']
  else if c == '\r' then ['\\', 'r']
  else if c == '\n' then ['\\', 'n']
  else if c == '\x27' || c == '\x22' || c == '\\' then ['\\', c]
  else if 0x20 ≤ c.toNat && c.toNat ≤ 0x7E then [c]
  else numericEscape c

end Lexigram.Text
