import EcmaRegex.Lexer.Digits
import EcmaRegex.Source
import EcmaRegex.Predefined
import EcmaRegex.Property.Lookup
/-!
# Escapes

What follows a backslash.  `escapeChar` reads an escape that stands for one code point:
control letters, `\cX`, `\xHH`, `\uHHHH` and `\u{H…}`, octal escapes of the legacy grammar, and
escaped syntax characters.  `classEscape` reads an escape that stands for a set: the predefined
classes `\d \D \s \S \w \W` and, in the unicode grammar, property escapes `\p{..}` and `\P{..}`.

The two grammars differ in what they do with an escape they cannot read.  The unicode grammar
refuses it; the legacy grammar reads the escaped unit as itself, or, for `\c` without a
letter, reads the backslash alone and resumes at the `c`.

In the unicode grammar a `\uHHHH` escape of a high surrogate takes a directly following
`\uHHHH` escape of a low surrogate as the other half of a pair.  When what follows is not such
an escape, nothing after the first escape is consumed, unless it is a `\u` whose four hex
digits are missing, which is refused.
-/

namespace EcmaRegex

namespace Scan

/-- The flags and options a pattern is scanned under, with the Unicode library that case
folding and property escapes ask. -/
structure Mode where
  flags : Flags
  options : Options
  library : UnicodeLibrary

/-- Whether the mode is the unicode grammar. -/
def Mode.unicode (m : Mode) : Bool := m.flags.unicode

/-- An escape that cannot be read: refused in the unicode grammar, read as `value` in the
legacy grammar. -/
def unreadable (m : Mode) (value : Nat) (problem : Problem) (input : List Nat) : Scanned Nat :=
  if m.unicode then .error (problem, input) else .ok (value, input)

theorem unreadable_length {m : Mode} {value : Nat} {problem : Problem} {input rest : List Nat}
    {v : Nat} (h : unreadable m value problem input = .ok (v, rest)) :
    rest.length ≤ input.length := by
  simp only [unreadable] at h
  split at h
  · cases h
  · simp only [Except.ok.injEq, Prod.mk.injEq] at h
    exact h.2 ▸ Nat.le_refl _

/-- The uppercase form of an ASCII letter, as a 16-bit unit: the bit that tells lowercase
cleared. -/
def controlUpper (l : Nat) : Nat := l &&& 0xFFDF

/-- The value of a control letter: its place in the alphabet, counted from `A` as one. -/
def controlValue (l : Nat) : Nat := controlUpper l - (unit 'A' - 1)

/-- The control escape `\cX`, read from the input at the `c`.  A letter gives its position in
the alphabet; the legacy grammar also takes a digit or `_` inside a class, as its value modulo
32.  Anything else leaves the `c` unread and stands for the backslash alone. -/
def controlEscape (m : Mode) (inClass : Bool) : List Nat → Scanned Nat
  | [] => .error (.unfinishedEscape, [])
  | c :: rest =>
    match rest with
    | [] => unreadable m (unit '\\') .invalidControlEscape (c :: rest)
    | l :: after =>
      if !m.unicode && inClass && (isDecimal l || l == unit '_') then .ok (l % 32, after)
      else if !isAsciiLetter l then unreadable m (unit '\\') .invalidControlEscape (c :: rest)
      else .ok (controlValue l, after)

theorem controlEscape_length {m : Mode} {inClass : Bool} {input rest : List Nat} {v : Nat}
    (h : controlEscape m inClass input = .ok (v, rest)) : rest.length ≤ input.length := by
  match input, h with
  | [], h => cases h
  | c :: [], h =>
    simp only [controlEscape] at h
    exact unreadable_length h
  | c :: l :: after, h =>
    simp only [controlEscape] at h
    split at h
    · simp only [Except.ok.injEq, Prod.mk.injEq] at h
      rw [← h.2]
      simp only [List.length_cons]
      omega
    · split at h
      · exact unreadable_length h
      · simp only [Except.ok.injEq, Prod.mk.injEq] at h
        rw [← h.2]
        simp only [List.length_cons]
        omega

/-- The trail of an escaped surrogate pair: a `\uHHHH` escape of a low surrogate right after
the escape of the high surrogate `lead`.  Gives `none` when the input does not start with
`\u` followed by four hex digits of a low surrogate, or starts with `\u{`. -/
def trailEscape (m : Mode) (lead : Nat) (input : List Nat) : Scanned (Option Nat) :=
  if !startsWith input "\\u" || startsWith (input.drop 2) "\x7b" then .ok (none, input.drop 2)
  else
    match hex m.unicode 4 (some 4) 0xFFFF .invalidUnicodeEscape (input.drop 2) with
    | .error e => .error e
    | .ok (some trail, rest) =>
      if Utf16.isLow trail then .ok (some (Utf16.combine lead trail), rest) else .ok (none, rest)
    | .ok (none, rest) => .ok (none, rest)

/-- The unicode escape after `\u`: four hex digits, or in the unicode grammar a code point in
braces.  The legacy grammar reads a `u` with fewer than four hex digits after it as `u`. -/
def unicodeEscape (m : Mode) (input : List Nat) : Scanned Nat :=
  if m.unicode && startsWith input "\x7b" then
    match hex m.unicode 1 none 0x10FFFF .invalidUnicodeEscape (input.drop 1) with
    | .error e => .error e
    | .ok (some v, rest) =>
      if startsWith rest "\x7d" then .ok (v, rest.drop 1) else .error (.invalidUnicodeEscape, rest)
    | .ok (none, rest) => .error (.invalidUnicodeEscape, rest)
  else
    match hex m.unicode 4 (some 4) 0xFFFF .invalidUnicodeEscape input with
    | .error e => .error e
    | .ok (none, rest) => .ok (unit 'u', rest)
    | .ok (some v, rest) =>
      if m.unicode && Utf16.isHigh v then
        match trailEscape m v rest with
        | .error e => .error e
        | .ok (some cp, after) => .ok (cp, after)
        | .ok (none, _) => .ok (v, rest)
      else .ok (v, rest)

theorem trailEscape_length {m : Mode} {lead : Nat} {input rest : List Nat} {v : Nat}
    (h : trailEscape m lead input = .ok (some v, rest)) : rest.length ≤ input.length := by
  simp only [trailEscape] at h
  split at h
  · cases h
  · split at h
    · cases h
    · next trail r heq =>
      split at h
      · simp only [Except.ok.injEq, Prod.mk.injEq] at h
        rw [← h.2]
        have := hex_length heq
        simp only [List.length_drop] at this
        omega
      · cases h
    · cases h

theorem unicodeEscape_length {m : Mode} {input rest : List Nat} {v : Nat}
    (h : unicodeEscape m input = .ok (v, rest)) : rest.length ≤ input.length := by
  simp only [unicodeEscape] at h
  split at h
  · split at h
    · cases h
    · next w r heq =>
      split at h
      · simp only [Except.ok.injEq, Prod.mk.injEq] at h
        rw [← h.2]
        have := hex_length heq
        simp only [List.length_drop] at this ⊢
        omega
      · cases h
    · cases h
  · split at h
    · cases h
    · next r heq =>
      simp only [Except.ok.injEq, Prod.mk.injEq] at h
      rw [← h.2]
      exact hex_length heq
    · next w r heq =>
      have hr := hex_length heq
      split at h
      · split at h
        · cases h
        · next cp after heq2 =>
          simp only [Except.ok.injEq, Prod.mk.injEq] at h
          rw [← h.2]
          exact Nat.le_trans (trailEscape_length heq2) hr
        · simp only [Except.ok.injEq, Prod.mk.injEq] at h
          rw [← h.2]
          exact hr
      · simp only [Except.ok.injEq, Prod.mk.injEq] at h
        rw [← h.2]
        exact hr

/-- The code point of a one-letter control escape `\t \n \v \f \r`. -/
def controlLetter? (c : Nat) : Option Nat :=
  if c == unit 't' then some 0x09
  else if c == unit 'n' then some 0x0A
  else if c == unit 'v' then some 0x0B
  else if c == unit 'f' then some 0x0C
  else if c == unit 'r' then some 0x0D
  else none

/-- The escape `\0`, read from the input after the `0`: the NUL character.  The unicode
grammar refuses a decimal digit after it; the legacy grammar reads octal digits after it as an
octal escape. -/
def nulEscape (m : Mode) (input : List Nat) : Scanned Nat :=
  if m.unicode && startsWithSuch input isDecimal then .error (.invalidEscape, input)
  else if !m.unicode && startsWithSuch input isOctal then .ok (octalFrom 0 2 input)
  else .ok (0, input)

theorem nulEscape_length {m : Mode} {input rest : List Nat} {v : Nat}
    (h : nulEscape m input = .ok (v, rest)) : rest.length ≤ input.length := by
  simp only [nulEscape] at h
  split at h
  · cases h
  split at h
  · simp only [Except.ok.injEq] at h
    have := octalFrom_length 0 2 input
    rw [h] at this
    exact this
  · cases h
    exact Nat.le_refl _

/-- The escape `\xHH`, read from the input after the `x`.  The legacy grammar reads an `x`
without two hex digits after it as `x`. -/
def hexEscape (m : Mode) (input : List Nat) : Scanned Nat :=
  match hex m.unicode 2 (some 2) 0xFF .invalidEscape input with
  | .error e => .error e
  | .ok (some v, rest) => .ok (v, rest)
  | .ok (none, rest) => .ok (unit 'x', rest)

theorem hexEscape_length {m : Mode} {input rest : List Nat} {v : Nat}
    (h : hexEscape m input = .ok (v, rest)) : rest.length ≤ input.length := by
  simp only [hexEscape] at h
  split at h
  · cases h
  · next w r heq =>
    cases h
    exact hex_length heq
  · next r heq =>
    cases h
    exact hex_length heq

/-- An escape that stands for one code point, read from the input at the unit after the
backslash.  Inside a class, `\b` is the backspace and `\-` is `-`. -/
def escapeChar (m : Mode) (inClass : Bool) : List Nat → Scanned Nat
  | [] => .error (.unfinishedEscape, [])
  | c :: rest =>
    if inClass && c == unit 'b' then .ok (0x08, rest)
    else if c == unit '0' then nulEscape m rest
    else if let some v := controlLetter? c then .ok (v, rest)
    else if c == unit 'c' then controlEscape m inClass (c :: rest)
    else if c == unit 'u' then unicodeEscape m rest
    else if c == unit 'x' then hexEscape m rest
    else if inClass && c == unit '-' then .ok (c, rest)
    else if !m.unicode && isOctal c then .ok (octalFrom (c - unit '0') 2 rest)
    else if isSyntaxChar c then .ok (c, rest)
    else unreadable m c .invalidEscape rest

theorem escapeChar_length {m : Mode} {inClass : Bool} {input rest : List Nat} {v : Nat}
    (h : escapeChar m inClass input = .ok (v, rest)) : rest.length ≤ input.length := by
  match input, h with
  | [], h => cases h
  | c :: after, h =>
    -- every branch but the control escape leaves at most what follows the escaped unit
    suffices hafter : rest.length ≤ after.length ∨ rest.length ≤ (c :: after).length by
      simp only [List.length_cons] at hafter ⊢
      omega
    simp only [escapeChar] at h
    split at h
    · cases h
      exact Or.inl (Nat.le_refl _)
    split at h
    · exact Or.inl (nulEscape_length h)
    split at h
    · cases h
      exact Or.inl (Nat.le_refl _)
    split at h
    · exact Or.inr (controlEscape_length h)
    split at h
    · exact Or.inl (unicodeEscape_length h)
    split at h
    · exact Or.inl (hexEscape_length h)
    split at h
    · cases h
      exact Or.inl (Nat.le_refl _)
    split at h
    · simp only [Except.ok.injEq] at h
      have := octalFrom_length (c - unit '0') 2 after
      rw [h] at this
      exact Or.inl this
    split at h
    · cases h
      exact Or.inl (Nat.le_refl _)
    · exact Or.inl (unreadable_length h)

/-- The set of a predefined class escape `\d \D \s \S \w \W`, for the escaped unit `c`. -/
def predefinedClass (m : Mode) (c : Nat) : CodePointSet :=
  let legacySpace := m.options.u180eWhitespace
  let foldedWord := m.unicode && m.flags.ignoreCase
  if c == unit 's' then if legacySpace then Predefined.legacyWhiteSpace else Predefined.whiteSpace
  else if c == unit 'S' then
    if legacySpace then Predefined.legacyNonWhiteSpace else Predefined.nonWhiteSpace
  else if c == unit 'd' then Predefined.digits
  else if c == unit 'D' then Predefined.nonDigits
  else if c == unit 'w' then if foldedWord then Predefined.wordCharsIgnoreCase else Predefined.wordChars
  else if c == unit 'W' && foldedWord then Predefined.nonWordCharsIgnoreCase
  else Predefined.nonWordChars

/-- Whether the unit names a predefined class. -/
def isPredefinedClass (c : Nat) : Bool :=
  "dDsSwW".toList.any (unit · == c)

/-- Whether the escaped unit names a set: a predefined class, or in the unicode grammar a
property escape. -/
def isClassEscape (m : Mode) (c : Nat) : Bool :=
  isPredefinedClass c || (m.unicode && (c == unit 'p' || c == unit 'P'))

/-- A property escape after `\p` or `\P`: a property name in braces, looked up in the
character database; `\P` stands for the complement.  The name is everything up to the first
`}`. -/
def property (lib : UnicodeLibrary) (invert : Bool) (input : List Nat) : Scanned CodePointSet :=
  if !startsWith input "\x7b" then .error (.invalidPropertyEscape, input)
  else
    let name := Utf16.decodeLossy ((input.drop 1).takeWhile (· != unit '}'))
    let after := (input.drop 1).dropWhile (· != unit '}')
    if !startsWith after "\x7d" then .error (.unfinishedPropertyEscape, after)
    else
      match Property.lookup lib name with
      | .ok set => .ok (if invert then set.complement else set, after.drop 1)
      | .error (.unknownName n) => .error (.unknownPropertyName n, after.drop 1)
      | .error (.unknownValue n v) => .error (.unknownPropertyValue n v, after.drop 1)

theorem property_length {lib : UnicodeLibrary} {invert : Bool} {input rest : List Nat}
    {s : CodePointSet} (h : property lib invert input = .ok (s, rest)) : rest.length ≤ input.length := by
  simp only [property] at h
  split at h
  · cases h
  · split at h
    · cases h
    · split at h
      · simp only [Except.ok.injEq, Prod.mk.injEq] at h
        rw [← h.2]
        have h1 := ((input.drop 1).dropWhile_suffix (· != unit '}')).length_le
        simp only [List.length_drop] at h1 ⊢
        omega
      · cases h
      · cases h

/-- A class escape, read from the input after the escaped unit `c`. -/
def classEscape (m : Mode) (c : Nat) (input : List Nat) : Scanned CodePointSet :=
  if isPredefinedClass c then .ok (predefinedClass m c, input)
  else property m.library (c == unit 'P') input

theorem classEscape_length {m : Mode} {c : Nat} {input rest : List Nat} {s : CodePointSet}
    (h : classEscape m c input = .ok (s, rest)) : rest.length ≤ input.length := by
  simp only [classEscape] at h
  split at h
  · simp only [Except.ok.injEq, Prod.mk.injEq] at h
    exact h.2 ▸ Nat.le_refl _
  · exact property_length h

/-- A high surrogate unit `lead`, paired with a low surrogate that follows it directly. -/
def surrogatePair (lead : Nat) : List Nat → Nat × List Nat
  | trail :: rest => if Utf16.isLow trail then (Utf16.combine lead trail, rest) else (lead, trail :: rest)
  | [] => (lead, [])

theorem surrogatePair_length (lead : Nat) (input : List Nat) :
    (surrogatePair lead input).2.length ≤ input.length := by
  cases input with
  | nil => simp [surrogatePair]
  | cons t rest =>
    simp only [surrogatePair]
    split
    · simp
    · exact Nat.le_refl _

end Scan

end EcmaRegex
