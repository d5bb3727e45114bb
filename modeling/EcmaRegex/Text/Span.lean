import EcmaRegex.Text.Utf16
/-!
# Spans of a pattern

A `TextSpan` is a start and a length, both counted in UTF-16 code units.  `toByteRange`
turns it into a range of UTF-8 byte offsets of a text: each end becomes the byte offset of
the character boundary at which exactly that many units lie before it.  An end with no such
boundary, past the text or between the two units of a surrogate pair, becomes the length of
the text in bytes, and the start never exceeds the end.
-/

namespace EcmaRegex

/-- A stretch of a pattern, in UTF-16 code units. -/
structure TextSpan where
  start : Nat
  length : Nat
  deriving DecidableEq, Repr, Inhabited

namespace TextSpan

/-- The span from `start` up to `stop`. -/
def between (start stop : Nat) : TextSpan := ⟨start, stop - start⟩

/-- The unit offset just past the span. -/
def stop (span : TextSpan) : Nat := span.start + span.length

/-- The span written `[start, stop)`. -/
def display (span : TextSpan) : String :=
  "[" ++ toString span.start ++ ", " ++ toString span.stop ++ ")"

/-- The span written `start..stop`. -/
def debug (span : TextSpan) : String :=
  toString span.start ++ ".." ++ toString span.stop

/-- Walk the characters of a text, with `units` and `bytes` the offsets of the current
boundary and `first` the byte offset found for the start so far (the text's byte length
while none is found).  The walk stops at the boundary of the span's end. -/
def byteRangeFrom (span : TextSpan) (total : Nat) (units bytes first : Nat) :
    List Char → Nat × Nat
  | [] => (min first total, total)
  | c :: cs =>
    let first := if units = span.start then bytes else first
    if units = span.stop then (min first bytes, bytes)
    else byteRangeFrom span total (units + Utf16.charWidth c) (bytes + c.utf8Size) first cs

/-- The UTF-8 byte range of the text that the span covers. -/
def toByteRange (span : TextSpan) (text : String) : Nat × Nat :=
  byteRangeFrom span text.utf8ByteSize 0 0 text.utf8ByteSize text.toList

end TextSpan

end EcmaRegex
