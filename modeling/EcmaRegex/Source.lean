import EcmaRegex.Flags
import EcmaRegex.Text.Utf16
/-!
# Pattern sources

A `Source` is what the lexer reads: the pattern as UTF-16 code units, its flags, and the
options.  The one option, `u180eWhitespace`, makes `\s` include U+180E MONGOLIAN VOWEL
SEPARATOR, as engines built on Unicode before version 6.3 did.
-/

namespace EcmaRegex

/-- Options of the lexer beyond the flags. -/
structure Options where
  u180eWhitespace : Bool := false
  deriving DecidableEq, Repr, Inhabited

/-- A pattern, as UTF-16 code units, with its flags and options. -/
structure Source where
  units : List Nat
  flags : Flags
  options : Options := {}
  deriving DecidableEq, Repr, Inhabited

namespace Source

/-- The source of a pattern written as a string, with default options. -/
def ofString (pattern : String) (flags : Flags) : Source :=
  ⟨Utf16.encode pattern, flags, {}⟩

/-- The source of a pattern and a flag string, or why the flags are refused. -/
def parse (pattern flags : String) : Except FlagsError Source :=
  (Flags.parse flags).map (ofString pattern)

/-- The same pattern and flags with other options. -/
def withOptions (s : Source) (options : Options) : Source :=
  { s with options := options }

/-- The pattern as text, with U+FFFD for each unpaired surrogate. -/
def text (s : Source) : String :=
  Utf16.decodeLossy s.units

end Source

end EcmaRegex
