/-!
# Errors of JSON reading

An error of reading JSON text is one of a fixed set of syntax problems, or a data problem with
its own message (a value of the wrong type or length, a field given twice).  It is reported at
a byte offset into the text, written as a line and a column: the line counts the newlines
before the offset, and the column is the number of bytes between the last of them and the
offset.  A data problem raised while a value was read as a whole gets its offset when the
reading of that value ends, at the offset reached then.

Errors fall into categories: `Eof` when the text ended too early, `Syntax` for any other
syntax problem, `Data` for a data problem, and `Io` when the text could not be read at all.
-/

namespace EcmaRegex

/-- What went wrong reading JSON text. -/
inductive JsonProblem where
  /-- A data problem, with its message. -/
  | data (message : String)
  | eofWhileParsingList
  | eofWhileParsingObject
  | eofWhileParsingString
  | eofWhileParsingValue
  | expectedColon
  | expectedListCommaOrEnd
  | expectedObjectCommaOrEnd
  | expectedSomeIdent
  | expectedSomeValue
  | invalidEscape
  | invalidNumber
  | numberOutOfRange
  | controlCharacterWhileParsingString
  | keyMustBeAString
  | loneLeadingSurrogateInHexEscape
  | trailingComma
  | trailingCharacters
  | unexpectedEndOfHexEscape
  deriving DecidableEq, Repr

/-- The category of an error of reading JSON. -/
inductive JsonCategory where
  | io
  | malformed
  | data
  | eof
  deriving DecidableEq, Repr

namespace JsonCategory

/-- The category's name. -/
def name : JsonCategory → String
  | io => "Io"
  | malformed => "Syntax"
  | data => "Data"
  | eof => "Eof"

end JsonCategory

namespace JsonProblem

/-- The problem's message. -/
def message : JsonProblem → String
  | data m => m
  | eofWhileParsingList => "EOF while parsing a list"
  | eofWhileParsingObject => "EOF while parsing an object"
  | eofWhileParsingString => "EOF while parsing a string"
  | eofWhileParsingValue => "EOF while parsing a value"
  | expectedColon => "expected `:`"
  | expectedListCommaOrEnd => "expected `,` or `]`"
  | expectedObjectCommaOrEnd => "expected `,` or `\x7d`"
  | expectedSomeIdent => "expected ident"
  | expectedSomeValue => "expected value"
  | invalidEscape => "invalid escape"
  | invalidNumber => "invalid number"
  | numberOutOfRange => "number out of range"
  | controlCharacterWhileParsingString =>
    "control character (\\u0000-\\u001F) found while parsing a string"
  | keyMustBeAString => "key must be a string"
  | loneLeadingSurrogateInHexEscape => "lone leading surrogate in hex escape"
  | trailingComma => "trailing comma"
  | trailingCharacters => "trailing characters"
  | unexpectedEndOfHexEscape => "unexpected end of hex escape"

/-- The problem's category. -/
def category : JsonProblem → JsonCategory
  | data _ => .data
  | eofWhileParsingList | eofWhileParsingObject | eofWhileParsingString
  | eofWhileParsingValue => .eof
  | _ => .malformed

end JsonProblem

/-- An error of reading JSON text: the problem and the byte offset it is reported at, which a
data problem lacks until the value it arose in has been read. -/
structure JsonError where
  problem : JsonProblem
  offset : Option Nat
  deriving DecidableEq, Repr

/-- A line and a column of a text, both counted as the error message writes them. -/
structure TextPosition where
  line : Nat
  column : Nat
  deriving DecidableEq, Repr

namespace TextPosition

/-- The line and column of a byte offset into UTF-8 bytes: one more than the number of
newlines before the offset, and the bytes after the last of them. -/
def ofOffset (bytes : List UInt8) (offset : Nat) : TextPosition :=
  let before := bytes.take offset
  let lineStart := before.length - (before.reverse.takeWhile (· != 10)).length
  ⟨1 + (before.take lineStart).count 10, offset - lineStart⟩

end TextPosition

namespace JsonError

/-- The error's category. -/
def category (e : JsonError) : JsonCategory := e.problem.category

/-- The error with the given offset, unless it has one already. -/
def fixOffset (e : JsonError) (offset : Nat) : JsonError :=
  match e.offset with
  | some _ => e
  | none => { e with offset := some offset }

/-- The error's message for the text it arose in: the problem, followed by
`at line L column C` when it has an offset. -/
def render (e : JsonError) (text : String) : String :=
  match e.offset with
  | none => e.problem.message
  | some offset =>
    let p := TextPosition.ofOffset text.toUTF8.toList offset
    e.problem.message ++ " at line " ++ toString p.line ++ " column " ++ toString p.column

end JsonError

end EcmaRegex
