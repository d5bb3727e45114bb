import EcmaRegex.Json.Error
import EcmaRegex.Json.Value
/-!
# Reading JSON text

The pieces a typed reader is built from: whitespace, the literals `null`, `true` and `false`,
strings with their escapes, numbers, and skipping a value of any shape.

The text is read through a `Cursor`: the characters not yet read and the number of bytes read
so far, which is where an error is reported.  Some errors are reported one byte past the
cursor, "at the byte looked at", unless the text has ended; `Cursor.peekError` makes those.

A reading step returns its result with the cursor after it, or an error with the cursor where
reading stopped.  The cursor matters after an error only to a data error, which gets its
offset once the enclosing value has been read to its end.

Strings must be valid Unicode: an escaped surrogate has to be a high one directly followed by
an escaped low one.  Control characters must be escaped.

Loops over the text take a fuel argument, the number of characters left plus one, which
bounds their steps since each step reads at least one character.
-/

namespace EcmaRegex

/-- A position in JSON text: the characters not yet read and the bytes read so far. -/
structure Cursor where
  rest : List Char
  offset : Nat
  deriving DecidableEq, Repr, Inhabited

/-- A failed reading step: the error, with the cursor where reading stopped. -/
abbrev JsonFailure := JsonError × Cursor

namespace Cursor

/-- The start of a text. -/
def ofString (text : String) : Cursor := ⟨text.toList, 0⟩

/-- The character at the cursor. -/
def peek? (c : Cursor) : Option Char := c.rest.head?

/-- The cursor after one character. -/
def advance (c : Cursor) : Cursor :=
  match c.rest with
  | [] => c
  | ch :: rest => ⟨rest, c.offset + ch.utf8Size⟩

/-- The fuel for a loop over the rest of the text. -/
def fuel (c : Cursor) : Nat := c.rest.length + 1

/-- An error at the cursor. -/
def error (c : Cursor) (p : JsonProblem) : JsonError := ⟨p, some c.offset⟩

/-- An error at the byte after the cursor, or at the cursor when the text has ended. -/
def peekError (c : Cursor) (p : JsonProblem) : JsonError :=
  ⟨p, some (if c.rest.isEmpty then c.offset else c.offset + 1)⟩

/-- An error at the cursor, with the cursor. -/
def fail {α : Type} (c : Cursor) (p : JsonProblem) : Except JsonFailure (α × Cursor) :=
  .error (c.error p, c)

/-- An error at the byte after the cursor, with the cursor. -/
def failPeek {α : Type} (c : Cursor) (p : JsonProblem) : Except JsonFailure (α × Cursor) :=
  .error (c.peekError p, c)

/-- An error `n` bytes past the cursor, with the cursor. -/
def failAt {α : Type} (c : Cursor) (n : Nat) (p : JsonProblem) :
    Except JsonFailure (α × Cursor) :=
  .error (⟨p, some (c.offset + n)⟩, c)

/-- Whether a character is JSON whitespace. -/
def isWhitespace (ch : Char) : Bool := ch = ' ' || ch = '\n' || ch = '\t' || ch = '\r'

/-- Skip whitespace. -/
def skipWhitespaceFrom (offset : Nat) : List Char → Cursor
  | ch :: rest =>
    if isWhitespace ch then skipWhitespaceFrom (offset + 1) rest else ⟨ch :: rest, offset⟩
  | [] => ⟨[], offset⟩

/-- The cursor after any whitespace. -/
def skipWhitespace (c : Cursor) : Cursor := skipWhitespaceFrom c.offset c.rest

/-- Read the characters of `ident`, the rest of a literal whose first character has been
read.  The text ending first is an error at its end; another character is an error just
after it. -/
def identFrom (c : Cursor) : List Char → Except JsonFailure (Unit × Cursor)
  | [] => .ok ((), c)
  | expected :: more =>
    match c.rest with
    | [] => c.fail .eofWhileParsingValue
    | ch :: _ => if ch = expected then identFrom c.advance more else c.failAt 1 .expectedSomeIdent

/-- Read the rest of a literal. -/
def ident (c : Cursor) (rest : String) : Except JsonFailure (Unit × Cursor) :=
  identFrom c rest.toList

/-- The value of a hexadecimal digit. -/
def hexDigit? (ch : Char) : Option Nat :=
  if '0' ≤ ch && ch ≤ '9' then some (ch.toNat - '0'.toNat)
  else if 'a' ≤ ch && ch ≤ 'f' then some (ch.toNat - 'a'.toNat + 10)
  else if 'A' ≤ ch && ch ≤ 'F' then some (ch.toNat - 'A'.toNat + 10)
  else none

/-- Read the four hexadecimal digits of a `\u` escape.  With fewer than four bytes left the
string is unfinished; otherwise the four bytes are consumed even when they are not all
digits, which is an invalid escape. -/
def hex4 (c : Cursor) : Except JsonFailure (Nat × Cursor) :=
  let available := ((c.rest.take 4).map Char.utf8Size).foldl (· + ·) 0
  if available < 4 then c.failAt available .eofWhileParsingString
  else
    match c.rest with
    | a :: b :: d :: e :: rest =>
      match hexDigit? a, hexDigit? b, hexDigit? d, hexDigit? e with
      | some w, some x, some y, some z =>
        .ok (((w * 16 + x) * 16 + y) * 16 + z, ⟨rest, c.offset + 4⟩)
      | _, _, _, _ => c.failAt 4 .invalidEscape
    | _ => c.failAt 4 .invalidEscape

/-- Whether a code unit is a high surrogate. -/
def isHighSurrogate (n : Nat) : Bool := 0xD800 ≤ n && n ≤ 0xDBFF

/-- Whether a code unit is a low surrogate. -/
def isLowSurrogate (n : Nat) : Bool := 0xDC00 ≤ n && n ≤ 0xDFFF

/-- Read a `\u` escape after its `u`: a code unit outside the surrogates, or a high surrogate
followed by an escaped low one. -/
def unicodeEscape (c : Cursor) : Except JsonFailure (Char × Cursor) := do
  let (n, c) ← hex4 c
  if isLowSurrogate n then c.fail .loneLeadingSurrogateInHexEscape
  else if !isHighSurrogate n then pure (Char.ofNat n, c)
  else
    match c.rest with
    | [] => c.fail .eofWhileParsingString
    | '\\' :: _ =>
      let c := c.advance
      match c.rest with
      | [] => c.fail .eofWhileParsingString
      | 'u' :: _ =>
        let (low, c) ← hex4 c.advance
        if isLowSurrogate low then
          pure (Char.ofNat ((n - 0xD800) * 0x400 + (low - 0xDC00) + 0x10000), c)
        else c.fail .loneLeadingSurrogateInHexEscape
      | _ :: _ => c.failAt 1 .unexpectedEndOfHexEscape
    | _ :: _ => c.failAt 1 .unexpectedEndOfHexEscape

/-- Read an escape after its backslash. -/
def escape (c : Cursor) : Except JsonFailure (Char × Cursor) :=
  match c.rest with
  | [] => c.fail .eofWhileParsingString
  | ch :: _ =>
    let next := c.advance
    if ch = '"' then .ok ('"', next)
    else if ch = '\\' then .ok ('\\', next)
    else if ch = '/' then .ok ('/', next)
    else if ch = 'b' then .ok ('\x08', next)
    else if ch = 'f' then .ok ('\x0c', next)
    else if ch = 'n' then .ok ('\n', next)
    else if ch = 'r' then .ok ('\r', next)
    else if ch = 't' then .ok ('\t', next)
    else if ch = 'u' then unicodeEscape next
    else c.failAt 1 .invalidEscape

/-- Read the rest of a string after its opening quote, appending its characters to `acc`. -/
def stringFrom (acc : Array Char) (c : Cursor) : Nat → Except JsonFailure (String × Cursor)
  | 0 => c.fail .eofWhileParsingString
  | fuel + 1 =>
    match c.rest with
    | [] => c.fail .eofWhileParsingString
    | ch :: _ =>
      if ch = '"' then .ok (String.ofList acc.toList, c.advance)
      else if ch = '\\' then
        match escape c.advance with
        | .ok (e, c) => stringFrom (acc.push e) c fuel
        | .error e => .error e
      else if ch.toNat < 0x20 then c.failAt 1 .controlCharacterWhileParsingString
      else stringFrom (acc.push ch) c.advance fuel

/-- Read a string after its opening quote. -/
def string (c : Cursor) : Except JsonFailure (String × Cursor) := stringFrom #[] c c.fuel

/-- Skip an escape after its backslash, without checking a `\u` escape's value. -/
def skipEscape (c : Cursor) : Except JsonFailure (Unit × Cursor) :=
  match c.rest with
  | [] => c.fail .eofWhileParsingString
  | ch :: _ =>
    if "\"\\/bfnrt".toList.contains ch then .ok ((), c.advance)
    else if ch = 'u' then (hex4 c.advance).map fun (_, c) => ((), c)
    else c.failAt 1 .invalidEscape

/-- Skip the rest of a string after its opening quote. -/
def skipStringFrom (c : Cursor) : Nat → Except JsonFailure (Unit × Cursor)
  | 0 => c.fail .eofWhileParsingString
  | fuel + 1 =>
    match c.rest with
    | [] => c.fail .eofWhileParsingString
    | ch :: _ =>
      if ch = '"' then .ok ((), c.advance)
      else if ch = '\\' then
        match skipEscape c.advance with
        | .ok (_, c) => skipStringFrom c fuel
        | .error e => .error e
      else if ch.toNat < 0x20 then c.fail .controlCharacterWhileParsingString
      else skipStringFrom c.advance fuel

/-- Skip a string after its opening quote. -/
def skipString (c : Cursor) : Except JsonFailure (Unit × Cursor) := skipStringFrom c c.fuel

/-- Whether a character is a decimal digit. -/
def isDigit (ch : Char) : Bool := '0' ≤ ch && ch ≤ '9'

/-- The decimal digits at the cursor, and the cursor after them. -/
def digitsFrom (acc : Array Nat) (offset : Nat) : List Char → List Nat × Cursor
  | ch :: rest =>
    if isDigit ch then digitsFrom (acc.push (ch.toNat - '0'.toNat)) (offset + 1) rest
    else (acc.toList, ⟨ch :: rest, offset⟩)
  | [] => (acc.toList, ⟨[], offset⟩)

/-- The decimal digits at the cursor, and the cursor after them. -/
def digits (c : Cursor) : List Nat × Cursor := digitsFrom #[] c.offset c.rest

/-- Whether the cursor is at a decimal digit. -/
def atDigit (c : Cursor) : Bool := c.peek?.any isDigit

/-- Read the exponent of a number after its `e`: an optional sign and at least one digit.
Also the offset of its first digit. -/
def exponentPart (c : Cursor) : Except JsonFailure (((Bool × List Nat) × Nat) × Cursor) :=
  let (positive, c) :=
    if c.peek? = some '+' then (true, c.advance)
    else if c.peek? = some '-' then (false, c.advance)
    else (true, c)
  match c.rest with
  | [] => c.fail .eofWhileParsingValue
  | ch :: _ =>
    if isDigit ch then
      let (ds, after) := digits c
      .ok (((positive, ds), c.offset), after)
    else c.failAt 1 .invalidNumber

/-- Read a number, its sign already read, into its parts.  Also the offset of the exponent's
first digit, where an exponent too large is reported. -/
def numberLiteral (negative : Bool) (c : Cursor) :
    Except JsonFailure ((NumberLiteral × Nat) × Cursor) := do
  let (integer, c) ← match c.rest with
    | [] => c.fail .eofWhileParsingValue
    | ch :: _ =>
      if ch = '0' then
        let c := c.advance
        if c.atDigit then c.failPeek .invalidNumber else pure ([0], c)
      else if isDigit ch then pure (digits c)
      else c.failAt 1 .invalidNumber
  let (fraction, c) ←
    if c.peek? = some '.' then
      let c := c.advance
      let (ds, after) := digits c
      if ds.isEmpty then
        if c.rest.isEmpty then c.failPeek .eofWhileParsingValue else c.failPeek .invalidNumber
      else pure (ds, after)
    else pure ([], c)
  if c.peek? = some 'e' || c.peek? = some 'E' then
    let ((exponent, exponentAt), c) ← exponentPart c.advance
    pure ((⟨negative, integer, fraction, some exponent⟩, exponentAt), c)
  else pure ((⟨negative, integer, fraction, none⟩, c.offset), c)

/-- Read a number, its sign already read, into its value. -/
def number (negative : Bool) (c : Cursor) : Except JsonFailure (JsonNumber × Cursor) := do
  let ((lit, exponentAt), after) ← numberLiteral negative c
  match lit.evaluate with
  | .ok n => pure (n, after)
  | .error .outOfRange => after.fail .numberOutOfRange
  | .error (.exponentOverflow i) => .error (⟨.numberOutOfRange, some (exponentAt + i)⟩, after)

/-- Skip the exponent of a number after its `e`. -/
def skipExponent (c : Cursor) : Except JsonFailure (Unit × Cursor) :=
  let c := if c.peek? = some '+' || c.peek? = some '-' then c.advance else c
  match c.rest with
  | [] => c.fail .invalidNumber
  | ch :: _ =>
    if isDigit ch then .ok ((), (digits c).2) else c.failAt 1 .invalidNumber

/-- Skip a number, its sign already read. -/
def skipNumber (c : Cursor) : Except JsonFailure (Unit × Cursor) := do
  let ((), c) ← match c.rest with
    | [] => c.fail .invalidNumber
    | ch :: _ =>
      if ch = '0' then
        let c := c.advance
        if c.atDigit then c.failPeek .invalidNumber else pure ((), c)
      else if isDigit ch then pure ((), (digits c).2)
      else c.failAt 1 .invalidNumber
  let ((), c) ←
    if c.peek? = some '.' then
      let c := c.advance
      let (ds, after) := digits c
      if ds.isEmpty then c.failPeek .invalidNumber else pure ((), after)
    else pure ((), c)
  if c.peek? = some 'e' || c.peek? = some 'E' then skipExponent c.advance
  else pure ((), c)

/-- Skip one scalar value at the cursor, after whitespace: `none` when it was skipped, or the
opening bracket of an array or object, which has been read. -/
def skipScalar (c : Cursor) : Except JsonFailure (Option Char × Cursor) :=
  match c.rest with
  | [] => c.failPeek .eofWhileParsingValue
  | ch :: _ =>
    let next := c.advance
    if ch = 'n' then (ident next "ull").map fun (_, c) => (none, c)
    else if ch = 't' then (ident next "rue").map fun (_, c) => (none, c)
    else if ch = 'f' then (ident next "alse").map fun (_, c) => (none, c)
    else if ch = '-' then (skipNumber next).map fun (_, c) => (none, c)
    else if isDigit ch then (skipNumber c).map fun (_, c) => (none, c)
    else if ch = '"' then (skipString next).map fun (_, c) => (none, c)
    else if ch = '[' || ch = '{' then .ok (some ch, next)
    else c.failPeek .expectedSomeValue

/-- After a value inside the open arrays and objects `stack` (innermost first, `frame` the
innermost): read the closing brackets and the comma that follow, and for an object the next
key and its colon.  `none` when the outermost bracket has been closed, otherwise the stack
to read the next value in. -/
def closeFrames (frame : Char) (stack : List Char) (acceptComma : Bool) (c : Cursor) :
    Nat → Except JsonFailure ((Option (Char × List Char)) × Cursor)
  | 0 => c.fail .eofWhileParsingValue
  | fuel + 1 =>
    let c := c.skipWhitespace
    match c.rest with
    | [] => c.failPeek (if frame = '[' then .eofWhileParsingList else .eofWhileParsingObject)
    | ch :: _ =>
      if ch = ',' && acceptComma then .ok (some (frame, stack), c.advance)
      else if (ch = ']' && frame = '[') || (ch = '}' && frame = '{') then
        match stack with
        | [] => .ok (none, c.advance)
        | outer :: stack => closeFrames outer stack true c.advance fuel
      else if acceptComma then
        c.failPeek (if frame = '[' then .expectedListCommaOrEnd else .expectedObjectCommaOrEnd)
      else .ok (some (frame, stack), c)

/-- In an object, read the key and colon before a member's value. -/
def memberKey (c : Cursor) : Except JsonFailure (Unit × Cursor) := do
  let c := c.skipWhitespace
  let ((), c) ← match c.rest with
    | '"' :: _ => skipString c.advance
    | [] => c.failPeek .eofWhileParsingObject
    | _ :: _ => c.failPeek .keyMustBeAString
  let c := c.skipWhitespace
  match c.rest with
  | ':' :: _ => pure ((), c.advance)
  | [] => c.failPeek .eofWhileParsingObject
  | _ :: _ => c.failPeek .expectedColon

/-- Skip values inside the open brackets `frames` (innermost first) until the outermost one is
closed, or skip one value when no bracket is open. -/
def skipNested (frames : List Char) (c : Cursor) : Nat → Except JsonFailure (Unit × Cursor)
  | 0 => c.fail .eofWhileParsingValue
  | fuel + 1 => do
    let (opened, c) ← skipScalar c.skipWhitespace
    let (next, c) ← match opened, frames with
      | some b, outer => closeFrames b outer false c c.fuel
      | none, [] => pure (none, c)
      | none, f :: outer => closeFrames f outer true c c.fuel
    match next with
    | none => pure ((), c)
    | some (frame, outer) =>
      let ((), c) ← if frame = '{' then memberKey c else pure ((), c)
      skipNested (frame :: outer) c fuel

/-- Skip one value of any shape. -/
def skipValue (c : Cursor) : Except JsonFailure (Unit × Cursor) := skipNested [] c c.fuel

end Cursor

end EcmaRegex
