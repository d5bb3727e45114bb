import EcmaRegex.Json.Number
import EcmaRegex.Unicode.GeneralCategory
import EcmaRegex.Unicode.Binary
/-!
# JSON values and what a type error names

`JsonValue` is a JSON document as a tree.  Objects keep their members in order; a reader that
allows a key twice decides itself which one counts.

When a value of the wrong kind is met where a typed one was expected, the error names what was
found, as an `Unexpected`: `integer` and `floating point` with the number, `string` with the
string quoted, `boolean` with its value, or just `null`, `sequence` or `map`.

A string is quoted with escapes for the quote, the backslash, and the characters that do not
print: `\0`, `\t`, `\r` and `\n` by name, and every other control, format, separator (but the
space), surrogate, private-use or unassigned character, or combining mark that extends a
grapheme, as `\u` followed by its hexadecimal code point in braces.
-/

namespace EcmaRegex

/-- A JSON document. -/
inductive JsonValue where
  | null
  | bool (b : Bool)
  | number (n : JsonNumber)
  | string (s : String)
  | array (items : List JsonValue)
  | object (members : List (String × JsonValue))
  deriving Repr, Inhabited

/-- What a value of the wrong kind turned out to be. -/
inductive Unexpected where
  | bool (b : Bool)
  | unsigned (n : Nat)
  | signed (n : Int)
  | float (x : Binary64)
  | string (s : String)
  | unit
  | seq
  | map
  deriving DecidableEq, Repr

namespace Unexpected

/-- The code points that a quoted string writes as an escape: controls, format characters,
surrogates, private-use and unassigned code points, separators other than the space, and
marks that extend a grapheme. -/
def escaped : CodePointSet :=
  let categories : List GeneralCategory :=
    [.control, .format, .surrogate, .privateUse, .unassigned, .lineSeparator,
     .paragraphSeparator, .spaceSeparator]
  let hidden := categories.foldl (fun s c => s.union c.set) CodePointSet.empty
  let hidden := hidden.union ((Unicode.binaryProperty? "Grapheme_Extend").getD CodePointSet.empty)
  ⟨hidden.ranges.flatMap fun r =>
    if r.lo ≤ 0x20 && 0x20 ≤ r.hi then
      (if r.lo < 0x20 then [⟨r.lo, 0x1F⟩] else []) ++ (if 0x20 < r.hi then [⟨0x21, r.hi⟩] else [])
    else [r]⟩

/-- The lower-case hexadecimal digits of `n`. -/
def lowerHex (n : Nat) : String :=
  String.ofList ((Nat.toDigits 16 n))

/-- One character of a quoted string. -/
def quoteChar (c : Char) : String :=
  if c = '\x00' then "\\0"
  else if c = '\t' then "\\t"
  else if c = '\r' then "\\r"
  else if c = '\n' then "\\n"
  else if c = '\\' then "\\\\"
  else if c = '"' then "\\\""
  else if escaped.contains c.toNat then "\\u\x7b" ++ lowerHex c.toNat ++ "\x7d"
  else c.toString

/-- A string between double quotes, with the characters that do not print escaped. -/
def quote (s : String) : String :=
  "\"" ++ String.join (s.toList.map quoteChar) ++ "\""

/-- What was found, as an error message names it. -/
def text : Unexpected → String
  | bool b => "boolean `" ++ toString b ++ "`"
  | unsigned n => "integer `" ++ toString n ++ "`"
  | signed n => "integer `" ++ toString n ++ "`"
  | float x => "floating point `" ++ x.text ++ "`"
  | string s => "string " ++ quote s
  | unit => "null"
  | seq => "sequence"
  | map => "map"

/-- What a number is, as found. -/
def ofNumber : JsonNumber → Unexpected
  | .unsigned n => unsigned n
  | .signed n => signed n
  | .float x => float x

end Unexpected

namespace JsonValue

/-- What the value is, as found where something else was expected. -/
def unexpected : JsonValue → Unexpected
  | null => .unit
  | bool b => .bool b
  | number n => .ofNumber n
  | string s => .string s
  | array _ => .seq
  | object _ => .map

end JsonValue

/-- The message for a value of the wrong kind. -/
def invalidType (found : Unexpected) (expected : String) : String :=
  "invalid type: " ++ found.text ++ ", expected " ++ expected

/-- The message for a sequence or map of the wrong length. -/
def invalidLength (length : Nat) (expected : String) : String :=
  "invalid length " ++ toString length ++ ", expected " ++ expected

end EcmaRegex
