import EcmaRegex.Unicode.Binary.Casing
import EcmaRegex.Unicode.Binary.Emoji
import EcmaRegex.Unicode.Binary.Format
import EcmaRegex.Unicode.Binary.Grapheme
import EcmaRegex.Unicode.Binary.Identifier
import EcmaRegex.Unicode.Binary.Ideograph
import EcmaRegex.Unicode.Binary.Letter
import EcmaRegex.Unicode.Binary.Notation
import EcmaRegex.Unicode.Binary.Punctuation
/-!
# Binary properties

The binary properties of the Unicode character database that a property escape can name, each
a table of the code points that have it.  The tables are kept by family in the modules under
`Unicode/Binary`; this module joins them and looks a property up by its long name.  Like the
other tables that proofs evaluate, they are lists of ranges written with raw literals.
-/

namespace EcmaRegex

namespace Unicode

/-- Every binary property table, by long name. -/
def binaryTables : List (String × List CodePointRange) :=
  casingTables ++ emojiTables ++ formatTables ++ graphemeTables ++ identifierTables ++
    ideographTables ++ letterTables ++ notationTables ++ punctuationTables

/-- The code points that have the binary property named by its long name, if the database
has a table for it. -/
def binaryProperty? (name : String) : Option CodePointSet :=
  (List.lookup name binaryTables).map CodePointSet.mk

end Unicode

end EcmaRegex
