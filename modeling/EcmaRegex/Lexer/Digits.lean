import EcmaRegex.Diagnostic
/-!
# Units and numbers of a pattern

Classification of the code units a pattern is made of, and the scanners for the numbers it
writes: decimal runs (group numbers and quantifier bounds), octal escapes of the legacy
grammar, and hexadecimal escapes.

Every scanner here takes the rest of the pattern as a list of units and returns what it read
with the rest after it.  A scanner that can fail returns a `Scanned` value, which on failure
keeps the problem and the rest of the input at the point where scanning stopped: that point is
where a lexer resumes and where the error's span ends.

Decimal numbers saturate at `2 ^ 32 - 1` instead of growing without bound, so that group
numbers and quantifier bounds stay 32-bit values.
-/

namespace EcmaRegex

/-- The outcome of a scan: the value read with the input left after it, or the problem met
with the input left at the point where scanning stopped. -/
abbrev Scanned (α : Type) := Except (Problem × List Nat) (α × List Nat)

namespace Scan

/-- The largest 32-bit unsigned value, where decimal numbers saturate. -/
def u32Max : Nat := 4294967295

/-- The code unit of an ASCII character. -/
abbrev unit (c : Char) : Nat := c.toNat

/-- Whether the unit is a decimal digit. -/
def isDecimal (c : Nat) : Bool := unit '0' ≤ c && c ≤ unit '9'

theorem isDecimal_iff (c : Nat) : isDecimal c = true ↔ 48 ≤ c ∧ c ≤ 57 := by
  simp only [isDecimal, unit, Bool.and_eq_true, decide_eq_true_eq]
  rfl

/-- Whether the unit is an octal digit. -/
def isOctal (c : Nat) : Bool := unit '0' ≤ c && c ≤ unit '7'

theorem isOctal_iff (c : Nat) : isOctal c = true ↔ 48 ≤ c ∧ c ≤ 55 := by
  simp only [isOctal, unit, Bool.and_eq_true, decide_eq_true_eq]
  rfl

/-- Whether the unit is an ASCII letter. -/
def isAsciiLetter (c : Nat) : Bool :=
  (unit 'A' ≤ c && c ≤ unit 'Z') || (unit 'a' ≤ c && c ≤ unit 'z')

theorem isAsciiLetter_iff (c : Nat) :
    isAsciiLetter c = true ↔ (65 ≤ c ∧ c ≤ 90) ∨ (97 ≤ c ∧ c ≤ 122) := by
  simp only [isAsciiLetter, unit, Bool.or_eq_true, Bool.and_eq_true, decide_eq_true_eq]
  rfl

/-- The value of a hexadecimal digit unit, upper or lower case. -/
def hexValue? (c : Nat) : Option Nat :=
  if unit '0' ≤ c && c ≤ unit '9' then some (c - unit '0')
  else if unit 'A' ≤ c && c ≤ unit 'F' then some (c - unit 'A' + 10)
  else if unit 'a' ≤ c && c ≤ unit 'f' then some (c - unit 'a' + 10)
  else none

/-- Whether the unit is one of the syntax characters `^ $ \ . * + ? ( ) [ ] { } |` or `/`,
which an escape may always name. -/
def isSyntaxChar (c : Nat) : Bool :=
  "^$/\\.*+?()[]\x7b\x7d|".toList.any (unit · == c)

/-- Whether the input starts with the units of the ASCII text `lit`. -/
def startsWith (input : List Nat) (lit : String) : Bool :=
  (lit.toList.map unit).isPrefixOf input

theorem startsWith_iff {input : List Nat} {lit : String} :
    startsWith input lit = true ↔ ∃ rest, input = lit.toList.map unit ++ rest := by
  rw [startsWith, List.isPrefixOf_iff_prefix]
  exact ⟨fun ⟨rest, h⟩ => ⟨rest, h.symm⟩, fun ⟨rest, h⟩ => ⟨rest, h.symm⟩⟩

/-- Whether the input starts with the unit `c`. -/
def startsWithUnit (input : List Nat) (c : Nat) : Bool :=
  input.head? == some c

/-- Whether the input starts with a unit satisfying `p`. -/
def startsWithSuch (input : List Nat) (p : Nat → Bool) : Bool :=
  input.head?.any p

/-- A decimal digit appended to a number, saturating at `u32Max`. -/
def pushDecimal (value digit : Nat) : Nat :=
  min (value * 10 + digit) u32Max

/-- Pushing a digit is the two saturating steps of 32-bit arithmetic, times ten and then plus
the digit, each stopping at `u32Max`: once the product reaches the bound, so does the sum. -/
theorem pushDecimal_eq_saturating (value digit : Nat) :
    pushDecimal value digit = min (min (value * 10) u32Max + digit) u32Max := by
  simp only [pushDecimal]
  omega

/-- Read the decimal digits at the start of the input into `value`. -/
def decimalFrom (value : Nat) : List Nat → Nat × List Nat
  | [] => (value, [])
  | c :: rest =>
    if isDecimal c then decimalFrom (pushDecimal value (c - unit '0')) rest
    else (value, c :: rest)

theorem decimalFrom_length (value : Nat) (input : List Nat) :
    (decimalFrom value input).2.length ≤ input.length := by
  induction input generalizing value with
  | nil => simp [decimalFrom]
  | cons c rest ih =>
    rw [decimalFrom]
    split
    · exact Nat.le_succ_of_le (ih _)
    · exact Nat.le_refl _

/-- Read up to `count` more octal digits into `value`, taking a digit only while the value
times eight stays at most 255, so that the result is a byte. -/
def octalFrom (value : Nat) : Nat → List Nat → Nat × List Nat
  | 0, input => (value, input)
  | _ + 1, [] => (value, [])
  | count + 1, c :: rest =>
    if isOctal c && value * 8 ≤ 255 then octalFrom (value * 8 + (c - unit '0')) count rest
    else (value, c :: rest)

theorem octalFrom_length (value count : Nat) (input : List Nat) :
    (octalFrom value count input).2.length ≤ input.length := by
  induction count generalizing value input with
  | zero => simp [octalFrom]
  | succ count ih =>
    cases input with
    | nil => simp [octalFrom]
    | cons c rest =>
      rw [octalFrom]
      split
      · exact Nat.le_succ_of_le (ih _ _)
      · exact Nat.le_refl _

/-- The values of the hexadecimal digits at the start of the input, at most `limit` of them
when a limit is given. -/
def hexRun : Option Nat → List Nat → List Nat
  | some 0, _ => []
  | _, [] => []
  | limit, c :: rest =>
    match hexValue? c with
    | some d => d :: hexRun (limit.map (· - 1)) rest
    | none => []

/-- Accumulate hexadecimal digits, consuming one unit per digit; fails as soon as the value
exceeds `maxValue`, with the offending digit consumed. -/
def hexAccumulate (maxValue : Nat) (problem : Problem) (value : Nat) :
    List Nat → List Nat → Scanned Nat
  | [], input => .ok (value, input)
  | d :: ds, input =>
    let value := value * 16 + d
    if maxValue < value then .error (problem, input.drop 1)
    else hexAccumulate maxValue problem value ds (input.drop 1)

theorem hexAccumulate_length {maxValue : Nat} {problem : Problem} {value : Nat}
    {digits input rest : List Nat} {v : Nat}
    (h : hexAccumulate maxValue problem value digits input = .ok (v, rest)) :
    rest.length ≤ input.length := by
  induction digits generalizing value input with
  | nil =>
    simp only [hexAccumulate, Except.ok.injEq, Prod.mk.injEq] at h
    exact h.2 ▸ Nat.le_refl _
  | cons d ds ih =>
    simp only [hexAccumulate] at h
    split at h
    · cases h
    · have := ih h
      simp only [List.length_drop] at this
      omega

/-- Read a hexadecimal number of `minDigits` to `maxDigits` digits (any number when no maximum
is given) whose value is at most `maxValue`.  With fewer digits than the minimum, nothing is
consumed: the unicode grammar fails with `problem`, the legacy grammar reads nothing. -/
def hex (unicode : Bool) (minDigits : Nat) (maxDigits : Option Nat) (maxValue : Nat)
    (problem : Problem) (input : List Nat) : Scanned (Option Nat) :=
  let digits := hexRun maxDigits input
  if digits.length < minDigits then
    if unicode then .error (problem, input) else .ok (none, input)
  else
    match hexAccumulate maxValue problem 0 digits input with
    | .ok (v, rest) => .ok (some v, rest)
    | .error e => .error e

theorem hex_length {unicode : Bool} {minDigits : Nat} {maxDigits : Option Nat} {maxValue : Nat}
    {problem : Problem} {input rest : List Nat} {v : Option Nat}
    (h : hex unicode minDigits maxDigits maxValue problem input = .ok (v, rest)) :
    rest.length ≤ input.length := by
  simp only [hex] at h
  split at h
  · split at h
    · cases h
    · simp only [Except.ok.injEq, Prod.mk.injEq] at h
      exact h.2 ▸ Nat.le_refl _
  · split at h
    · next v' rest' heq =>
      simp only [Except.ok.injEq, Prod.mk.injEq] at h
      rw [← h.2]
      exact hexAccumulate_length heq
    · cases h

end Scan

end EcmaRegex
