import EcmaRegex.CodePointSet.Basic
/-!
# Predefined sets

The sets behind `.` and the class escapes `\d \D \s \S \w \W`, and their complements.

* `.` is every code point but the four line terminators, or every code point under the `s` flag.
* `\s` is ECMAScript's white space and line terminators; an option adds U+180E MONGOLIAN VOWEL
  SEPARATOR, which Unicode counted as white space before version 6.3.
* `\w` is the ASCII letters, digits and `_`; under both `u` and `i` it also holds U+017F LATIN
  SMALL LETTER LONG S and U+212A KELVIN SIGN, whose simple case folds are `s` and `k`.

Each of these sets is already closed under the case folding of the mode it is used in, so the
lexer hands them out without folding them again.
-/

namespace EcmaRegex

namespace Predefined

/-- The line terminators: line feed, carriage return, line and paragraph separator. -/
def lineTerminators : CodePointSet :=
  CodePointSet.ofRanges [⟨0x0A, 0x0A⟩, ⟨0x0D, 0x0D⟩, ⟨0x2028, 0x2028⟩, ⟨0x2029, 0x2029⟩]

/-- What `.` matches without the `s` flag. -/
def dot : CodePointSet := lineTerminators.complement

/-- What `.` matches under the `s` flag. -/
def dotAll : CodePointSet := CodePointSet.full

/-- The decimal digits `0` to `9`. -/
def digits : CodePointSet := CodePointSet.ofRange 0x30 0x39

/-- Everything but the decimal digits. -/
def nonDigits : CodePointSet := digits.complement

/-- White space and line terminators. -/
def whiteSpace : CodePointSet :=
  CodePointSet.ofRanges [⟨0x0009, 0x000D⟩, ⟨0x0020, 0x0020⟩, ⟨0x00A0, 0x00A0⟩,
    ⟨0x1680, 0x1680⟩, ⟨0x2000, 0x200A⟩, ⟨0x2028, 0x2029⟩, ⟨0x202F, 0x202F⟩,
    ⟨0x205F, 0x205F⟩, ⟨0x3000, 0x3000⟩, ⟨0xFEFF, 0xFEFF⟩]

/-- Everything but white space. -/
def nonWhiteSpace : CodePointSet := whiteSpace.complement

/-- White space with U+180E MONGOLIAN VOWEL SEPARATOR. -/
def legacyWhiteSpace : CodePointSet := whiteSpace.addCodePoint 0x180E

/-- Everything but white space with U+180E. -/
def legacyNonWhiteSpace : CodePointSet := legacyWhiteSpace.complement

/-- The word characters: ASCII digits, letters and `_`. -/
def wordChars : CodePointSet :=
  CodePointSet.ofRanges [⟨0x30, 0x39⟩, ⟨0x41, 0x5A⟩, ⟨0x5F, 0x5F⟩, ⟨0x61, 0x7A⟩]

/-- Everything but the word characters. -/
def nonWordChars : CodePointSet := wordChars.complement

/-- The word characters with the two code points that simple case folding joins to them:
U+017F LATIN SMALL LETTER LONG S and U+212A KELVIN SIGN. -/
def wordCharsIgnoreCase : CodePointSet :=
  (wordChars.addCodePoint 0x017F).addCodePoint 0x212A

/-- Everything but the word characters and their two case-fold companions. -/
def nonWordCharsIgnoreCase : CodePointSet := wordCharsIgnoreCase.complement

end Predefined

end EcmaRegex
