/-!
# UTF-16 code units

Patterns are sequences of UTF-16 code units, here natural numbers below `0x10000`.  A code
point above `0xFFFF` is written as a high surrogate (`0xD800` to `0xDBFF`) followed by a low
surrogate (`0xDC00` to `0xDFFF`).  A surrogate that is not part of such a pair is kept as a
unit of its own; text made from units replaces it by U+FFFD.
-/

namespace EcmaRegex

namespace Utf16

/-- Whether the unit is a high (leading) surrogate. -/
def isHigh (u : Nat) : Bool := 0xD800 ≤ u && u ≤ 0xDBFF

/-- Whether the unit is a low (trailing) surrogate. -/
def isLow (u : Nat) : Bool := 0xDC00 ≤ u && u ≤ 0xDFFF

/-- The code point a high and a low surrogate stand for together. -/
def combine (lead trail : Nat) : Nat :=
  0x10000 + (lead - 0xD800) * 0x400 + (trail - 0xDC00)

/-- The units that write one character. -/
def encodeChar (c : Char) : List Nat :=
  if c.val.toNat < 0x10000 then [c.val.toNat]
  else
    let v := c.val.toNat - 0x10000
    [0xD800 + v / 0x400, 0xDC00 + v % 0x400]

/-- The units that write a string. -/
def encode (s : String) : List Nat :=
  s.toList.flatMap encodeChar

/-- The number of units that write a character. -/
def charWidth (c : Char) : Nat :=
  if c.val.toNat < 0x10000 then 1 else 2

/-- The characters a sequence of units reads as: each high surrogate followed by a low
surrogate is one character, and every other surrogate becomes U+FFFD. -/
def decodeChars : List Nat → List Char
  | [] => []
  | [u] => [if 0xD800 ≤ u && u ≤ 0xDFFF then '\uFFFD' else Char.ofNat u]
  | u :: v :: rest =>
    if isHigh u && isLow v then Char.ofNat (combine u v) :: decodeChars rest
    else (if 0xD800 ≤ u && u ≤ 0xDFFF then '\uFFFD' else Char.ofNat u) :: decodeChars (v :: rest)

/-- The text a sequence of units reads as, with U+FFFD for each unpaired surrogate. -/
def decodeLossy (units : List Nat) : String :=
  String.ofList (decodeChars units)

end Utf16

end EcmaRegex
