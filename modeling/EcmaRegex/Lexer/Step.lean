import EcmaRegex.Lexer.Class
/-!
# One token

`Scan.token` reads the token at the start of the input.  Besides the mode it needs two facts
about what came before: how many capture groups have been opened, counting the whole pattern
as group one, and the kind of the last token read successfully.

* A quantifier must follow a character class, the end of a group, or a backreference.  After
  another quantifier it is a quantifier on a quantifier; anywhere else there is nothing to
  repeat.  A `{` that does not start a well-formed bound is refused by the unicode grammar and
  is a literal `{` in the legacy grammar.
* A `\` followed by a decimal number is a backreference when the number is below the count of
  groups opened so far, or when a `(` occurs anywhere after the number; otherwise the digits
  are read again as an ordinary escape.
* The unicode grammar refuses a lone `]` or `}`, which the legacy grammar reads as literals.
-/

namespace EcmaRegex

namespace Scan

/-- A class holding one code point, folded under the `i` flag. -/
def single (m : Mode) (c : Nat) : Token :=
  classToken m (CodePointSet.ofCodePoint c) false

/-- The bounds of a counted quantifier, read from the input after its `{`: `{n}`, `{n,}` or
`{n,m}`, with the input after the `}`.  `none` when they are not well formed. -/
def countedBounds (input : List Nat) : Option (Nat × Option Nat × List Nat) :=
  if !startsWithSuch input isDecimal then none
  else
    let (min, rest) := decimalFrom 0 input
    if startsWith rest ",\x7d" then some (min, none, rest.drop 2)
    else if startsWith rest "\x7d" then some (min, some min, rest.drop 1)
    else if !startsWith rest "," then none
    else
      let rest := rest.drop 1
      if !startsWithSuch rest isDecimal then none
      else
        let (max, rest) := decimalFrom 0 rest
        if startsWith rest "\x7d" then some (min, some max, rest.drop 1) else none

theorem countedBounds_length {input rest : List Nat} {min : Nat} {max : Option Nat}
    (h : countedBounds input = some (min, max, rest)) : rest.length ≤ input.length := by
  simp only [countedBounds] at h
  have h1 := decimalFrom_length 0 input
  split at h
  · cases h
  split at h
  · cases h
    simp only [List.length_drop]
    omega
  split at h
  · cases h
    simp only [List.length_drop]
    omega
  split at h
  · cases h
  split at h
  · cases h
  split at h
  · cases h
    have h2 := decimalFrom_length 0 ((decimalFrom 0 input).2.drop 1)
    simp only [List.length_drop] at h2 ⊢
    omega
  · cases h

/-- A quantifier with the given bounds, read up to its optional `?`, checked against the kind
of the token before it. -/
def quantifierAfter (lastToken : Option TokenKind) (min : Nat) (max : Option Nat)
    (input : List Nat) : Scanned Token :=
  let lazy := startsWith input "?"
  let rest := if lazy then input.drop 1 else input
  match lastToken with
  | some .quantifier => .error (.quantifierOnQuantifier, rest)
  | some kind =>
    if kind.isQuantifiable then .ok (.quantifier ⟨min, max, !lazy⟩, rest)
    else .error (.nothingToRepeat, rest)
  | none => .error (.nothingToRepeat, rest)

theorem quantifierAfter_length {lastToken : Option TokenKind} {min : Nat} {max : Option Nat}
    {input rest : List Nat} {t : Token} (h : quantifierAfter lastToken min max input = .ok (t, rest)) :
    rest.length ≤ input.length := by
  have hrest : (if startsWith input "?" then input.drop 1 else input).length ≤ input.length := by
    split
    · simp only [List.length_drop]
      omega
    · exact Nat.le_refl _
  simp only [quantifierAfter] at h
  split at h
  · cases h
  · split at h
    · cases h
      exact hrest
    · cases h
  · cases h

/-- A quantifier starting with the unit `c`, which is `{`, `*`, `+` or `?`. -/
def quantifier (m : Mode) (lastToken : Option TokenKind) (c : Nat) (input : List Nat) :
    Scanned Token :=
  if c == unit '{' then
    match countedBounds input with
    | some (min, max, rest) => quantifierAfter lastToken min max rest
    | none => if m.unicode then .error (.incompleteQuantifier, input) else .ok (single m c, input)
  else if c == unit '*' then quantifierAfter lastToken 0 none input
  else if c == unit '+' then quantifierAfter lastToken 1 none input
  else quantifierAfter lastToken 0 (some 1) input

theorem quantifier_length {m : Mode} {lastToken : Option TokenKind} {c : Nat}
    {input rest : List Nat} {t : Token} (h : quantifier m lastToken c input = .ok (t, rest)) :
    rest.length ≤ input.length := by
  simp only [quantifier] at h
  split at h
  · split at h
    · next min max after heq =>
      exact Nat.le_trans (quantifierAfter_length h) (countedBounds_length heq)
    · split at h
      · cases h
      · cases h
        exact Nat.le_refl _
  split at h
  · exact quantifierAfter_length h
  split at h
  · exact quantifierAfter_length h
  · exact quantifierAfter_length h

/-- The opening of a group, read from the input after its `(`. -/
def groupBegin (input : List Nat) : Token × List Nat :=
  if startsWith input "?=" then (.lookAheadBegin, input.drop 2)
  else if startsWith input "?!" then (.negativeLookAheadBegin, input.drop 2)
  else if startsWith input "?<=" then (.lookBehindBegin, input.drop 3)
  else if startsWith input "?:" then (.nonCaptureGroupBegin, input.drop 2)
  else (.captureGroupBegin, input)

theorem groupBegin_length (input : List Nat) : (groupBegin input).2.length ≤ input.length := by
  simp only [groupBegin]
  split
  · simp only [List.length_drop]; omega
  split
  · simp only [List.length_drop]; omega
  split
  · simp only [List.length_drop]; omega
  split
  · simp only [List.length_drop]; omega
  · exact Nat.le_refl _

/-- An escape outside a class, read from the input after the backslash. -/
def escape (m : Mode) (groups : Nat) : List Nat → Scanned Token
  | [] => .error (.unfinishedEscape, [])
  | c :: rest =>
    let reference :=
      if unit '1' ≤ c && c ≤ unit '9' then
        let (number, after) := decimalFrom (c - unit '0') rest
        if number < groups || after.contains (unit '(') then some (number, after) else none
      else none
    match reference with
    | some (number, after) => .ok (.backReference number, after)
    | none =>
      if c == unit 'b' then .ok (.wordBoundary, rest)
      else if c == unit 'B' then .ok (.nonWordBoundary, rest)
      else if isPredefinedClass c then .ok (.charClass (predefinedClass m c), rest)
      else if m.unicode && (c == unit 'p' || c == unit 'P') then
        match property m.library (c == unit 'P') rest with
        | .ok (set, after) => .ok (classToken m set false, after)
        | .error e => .error e
      else
        match escapeChar m false (c :: rest) with
        | .ok (v, after) => .ok (single m v, after)
        | .error e => .error e

theorem escape_length {m : Mode} {groups : Nat} {input rest : List Nat} {t : Token}
    (h : escape m groups input = .ok (t, rest)) : rest.length ≤ input.length := by
  match input, h with
  | [], h => cases h
  | c :: tail, h =>
    simp only [escape] at h
    have hd := decimalFrom_length (c - unit '0') tail
    suffices hafter : rest.length ≤ tail.length ∨ rest.length ≤ (c :: tail).length by
      simp only [List.length_cons] at hafter ⊢
      omega
    split at h
    · next number after heq =>
      cases h
      split at heq
      · split at heq
        · cases heq
          exact Or.inl hd
        · cases heq
      · cases heq
    split at h
    · cases h
      exact Or.inl (Nat.le_refl _)
    split at h
    · cases h
      exact Or.inl (Nat.le_refl _)
    split at h
    · cases h
      exact Or.inl (Nat.le_refl _)
    split at h
    · split at h
      · next set after heq =>
        cases h
        exact Or.inl (property_length heq)
      · cases h
    · split at h
      · next v after heq =>
        cases h
        exact Or.inr (escapeChar_length heq)
      · cases h

/-- The token at the start of the input. -/
def token (m : Mode) (groups : Nat) (lastToken : Option TokenKind) : List Nat → Scanned Token
  | [] => .error (.unexpectedEnd, [])
  | c :: rest =>
    if c == unit '.' then
      .ok (classToken m (if m.flags.dotAll then Predefined.dotAll else Predefined.dot) false, rest)
    else if c == unit '^' then .ok (.caret, rest)
    else if c == unit '$' then .ok (.dollar, rest)
    else if c == unit '{' || c == unit '*' || c == unit '+' || c == unit '?' then
      quantifier m lastToken c rest
    else if c == unit '}' && m.unicode then .error (.loneBrace, rest)
    else if c == unit '|' then .ok (.alternation, rest)
    else if c == unit '(' then .ok (groupBegin rest)
    else if c == unit ')' then .ok (.groupEnd, rest)
    else if c == unit '[' then charClass m rest
    else if c == unit ']' && m.unicode then .error (.loneBracket, rest)
    else if c == unit '\\' then escape m groups rest
    else if m.unicode && Utf16.isHigh c then
      let (cp, after) := surrogatePair c rest
      .ok (single m cp, after)
    else .ok (single m c, rest)

/-- A token consumes at least its first unit. -/
theorem token_length {m : Mode} {groups : Nat} {lastToken : Option TokenKind} {c : Nat}
    {input rest : List Nat} {t : Token} (h : token m groups lastToken (c :: input) = .ok (t, rest)) :
    rest.length ≤ input.length := by
  rw [token] at h
  by_cases h1 : (c == unit '.') = true
  · rw [if_pos h1] at h
    cases h
    exact Nat.le_refl _
  rw [if_neg h1] at h
  by_cases h2 : (c == unit '^') = true
  · rw [if_pos h2] at h
    cases h
    exact Nat.le_refl _
  rw [if_neg h2] at h
  by_cases h3 : (c == unit '$') = true
  · rw [if_pos h3] at h
    cases h
    exact Nat.le_refl _
  rw [if_neg h3] at h
  by_cases h4 : (c == unit '{' || c == unit '*' || c == unit '+' || c == unit '?') = true
  · rw [if_pos h4] at h
    exact quantifier_length h
  rw [if_neg h4] at h
  by_cases h5 : (c == unit '}' && m.unicode) = true
  · rw [if_pos h5] at h
    cases h
  rw [if_neg h5] at h
  by_cases h6 : (c == unit '|') = true
  · rw [if_pos h6] at h
    cases h
    exact Nat.le_refl _
  rw [if_neg h6] at h
  by_cases h7 : (c == unit '(') = true
  · rw [if_pos h7] at h
    have hg := groupBegin_length input
    rw [Except.ok.inj h] at hg
    exact hg
  rw [if_neg h7] at h
  by_cases h8 : (c == unit ')') = true
  · rw [if_pos h8] at h
    cases h
    exact Nat.le_refl _
  rw [if_neg h8] at h
  by_cases h9 : (c == unit '[') = true
  · rw [if_pos h9] at h
    exact charClass_length h
  rw [if_neg h9] at h
  by_cases h10 : (c == unit ']' && m.unicode) = true
  · rw [if_pos h10] at h
    cases h
  rw [if_neg h10] at h
  by_cases h11 : (c == unit '\\') = true
  · rw [if_pos h11] at h
    exact escape_length h
  rw [if_neg h11] at h
  by_cases h12 : (m.unicode && Utf16.isHigh c) = true
  · rw [if_pos h12] at h
    cases h
    exact surrogatePair_length _ _
  rw [if_neg h12] at h
  cases h
  exact Nat.le_refl _

end Scan

end EcmaRegex
