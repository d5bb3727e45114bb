import EcmaRegex.CodePointSet.Basic
/-!
# Printing code point sets

A code point prints as `U+` and its value in upper-case hexadecimal with at least four
digits; a range prints its two ends joined by `-`, or its one point when `lo = hi`; a set
prints its ranges in order, separated by single spaces, between square brackets.
-/

namespace EcmaRegex

/-- The hexadecimal digit of a value below sixteen, upper case. -/
def hexDigit (d : Nat) : Char :=
  if d < 10 then Char.ofNat (48 + d) else Char.ofNat (55 + d)

/-- The upper-case hexadecimal digits of `n`, most significant first, with no leading zero
(and the single digit `0` for zero). -/
def hexDigits (n : Nat) : List Char :=
  if n < 16 then [hexDigit n] else hexDigits (n / 16) ++ [hexDigit (n % 16)]
termination_by n
decreasing_by omega

/-- The hexadecimal digits of `n`, padded with zeros on the left to at least `width`. -/
def hexPadded (width n : Nat) : String :=
  let ds := hexDigits n
  String.ofList (List.replicate (width - ds.length) '0' ++ ds)

/-- The code point `c` written `U+XXXX`. -/
def codePointText (c : Nat) : String :=
  "U+" ++ hexPadded 4 c

/-- A range written `U+XXXX-U+YYYY`, or `U+XXXX` when it holds one point. -/
def CodePointRange.text (r : CodePointRange) : String :=
  if r.lo = r.hi then codePointText r.lo else codePointText r.lo ++ "-" ++ codePointText r.hi

namespace CodePointSet

/-- The set written as its ranges between square brackets. -/
def display (s : CodePointSet) : String :=
  "[" ++ " ".intercalate (s.ranges.map CodePointRange.text) ++ "]"

/-- The set written as `CodePointSet` followed by its display. -/
def debug (s : CodePointSet) : String :=
  "CodePointSet" ++ s.display

end CodePointSet

end EcmaRegex
