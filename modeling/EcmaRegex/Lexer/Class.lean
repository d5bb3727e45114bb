import EcmaRegex.Lexer.Escape
import EcmaRegex.CaseFold
import EcmaRegex.Token
/-!
# Character classes

A bracketed class `[...]` is read atom by atom until its `]`.  An atom is a class escape, which
adds a set, or a single code point, which may be the low end of a range `lo-hi`.  A `-` right
before the `]` or at the end of the input is a literal `-`.

The grammars differ on class escapes next to a `-`.  The unicode grammar refuses a class
escape as either end of a range; the legacy grammar reads `[\d-z]` as `\d`, `-` and `z`, and
`[a-\d]` as `a`, `-` and `\d`.

The set a class token carries is folded under the `i` flag first, and complemented after that
when the class starts with `^`.  Folding commutes with complement, since the complement of a set
closed under case is closed under case too, so the order is not visible; it is the order in
which the steps are taken.

Each atom consumes at least the unit it starts with, which is what makes the class loop end:
`classAtom_length` says that an atom leaves no more input than followed its first unit.
-/

namespace EcmaRegex

namespace Scan

/-- A character class token for `set`: folded under the `i` flag, then complemented when
`invert` is set. -/
def classToken (m : Mode) (set : CodePointSet) (invert : Bool) : Token :=
  let set := if m.flags.ignoreCase then CaseFold.apply m.library set m.unicode else set
  .charClass (if invert then set.complement else set)

/-- One code point of a class, read from the input after the unit `c` that starts it: an
escape, a surrogate pair in the unicode grammar, or the unit itself.  For a class escape the
result is instead the escaped unit, with the input after it. -/
def classCodePoint (m : Mode) (c : Nat) (input : List Nat) : Scanned (Sum Nat Nat) :=
  if c == unit '\\' then
    match input with
    | [] => .error (.unfinishedEscape, [])
    | e :: rest =>
      if isClassEscape m e then .ok (.inr e, rest)
      else
        match escapeChar m true (e :: rest) with
        | .ok (v, after) => .ok (.inl v, after)
        | .error err => .error err
  else if m.unicode && Utf16.isHigh c then
    let (v, after) := surrogatePair c input
    .ok (.inl v, after)
  else .ok (.inl c, input)

theorem classCodePoint_length {m : Mode} {c : Nat} {input rest : List Nat}
    {v : Sum Nat Nat} (h : classCodePoint m c input = .ok (v, rest)) :
    rest.length ≤ input.length := by
  simp only [classCodePoint] at h
  split at h
  · split at h
    · cases h
    · next e tail =>
      split at h
      · cases h
        simp only [List.length_cons]
        omega
      · split at h
        · next w after heq =>
          cases h
          exact escapeChar_length heq
        · cases h
  · split at h
    · cases h
      exact surrogatePair_length _ _
    · cases h
      exact Nat.le_refl _

/-- The range from `lo` to `hi` added to the set, refused when `hi` is below `lo`. -/
def addClassRange (set : CodePointSet) (lo hi : Nat) (rest : List Nat) : Scanned CodePointSet :=
  if hi < lo then .error (.rangeOutOfOrder, rest) else .ok (set.addRange lo hi, rest)

/-- The atom after a code point `lo` of a class: a range when a `-` follows that is neither
last nor before the `]`, and otherwise the code point alone. -/
def classRangeFrom (m : Mode) (set : CodePointSet) (lo : Nat) (input : List Nat) :
    Scanned CodePointSet :=
  if !startsWith input "-" then .ok (set.addCodePoint lo, input)
  else
    match input.drop 1 with
    | [] => .ok ((set.addCodePoint lo).addCodePoint (unit '-'), [])
    | h :: rest =>
      if h == unit ']' then .ok ((set.addCodePoint lo).addCodePoint (unit '-'), h :: rest)
      else
        match classCodePoint m h rest with
        | .error err => .error err
        | .ok (.inl hi, after) => addClassRange set lo hi after
        | .ok (.inr e, after) =>
          if m.unicode then .error (.invalidClass, after)
          else
            match classEscape m e after with
            | .error err => .error err
            | .ok (escaped, after') =>
              .ok (((set.addCodePoint lo).addCodePoint (unit '-')).union escaped, after')

theorem classRangeFrom_length {m : Mode} {set : CodePointSet} {lo : Nat} {input rest : List Nat}
    {s : CodePointSet} (h : classRangeFrom m set lo input = .ok (s, rest)) :
    rest.length ≤ input.length := by
  simp only [classRangeFrom] at h
  split at h
  · cases h
    exact Nat.le_refl _
  · have hd : ∀ l : List Nat, input.drop 1 = l → l.length ≤ input.length := by
      intro l hl
      rw [← hl, List.length_drop]
      omega
    split at h
    · next heq =>
      cases h
      exact Nat.zero_le _
    · next c tail heq =>
      have htail := hd _ heq
      simp only [List.length_cons] at htail
      split at h
      · cases h
        exact hd _ heq
      · split at h
        · cases h
        · next hi after heq2 =>
          have := classCodePoint_length heq2
          simp only [addClassRange] at h
          split at h
          · cases h
          · cases h
            omega
        · next e after heq2 =>
          have hr := classCodePoint_length heq2
          split at h
          · cases h
          · split at h
            · cases h
            · next escaped after' heq3 =>
              cases h
              have := classEscape_length heq3
              omega

/-- One atom of a class, read from the input after its first unit `c`, added to the set. -/
def classAtom (m : Mode) (set : CodePointSet) (c : Nat) (input : List Nat) :
    Scanned CodePointSet :=
  match classCodePoint m c input with
  | .error err => .error err
  | .ok (.inl lo, after) => classRangeFrom m set lo after
  | .ok (.inr e, after) =>
    match classEscape m e after with
    | .error err => .error err
    | .ok (escaped, after') =>
      if m.unicode && startsWith after' "-" && !startsWith after' "-]" then
        .error (.invalidClass, after')
      else .ok (set.union escaped, after')

theorem classAtom_length {m : Mode} {set : CodePointSet} {c : Nat} {input rest : List Nat}
    {s : CodePointSet} (h : classAtom m set c input = .ok (s, rest)) :
    rest.length ≤ input.length := by
  simp only [classAtom] at h
  split at h
  · cases h
  · next lo after heq =>
    exact Nat.le_trans (classRangeFrom_length h) (classCodePoint_length heq)
  · next e after heq =>
    split at h
    · cases h
    · next escaped after' heq2 =>
      split at h
      · cases h
      · cases h
        exact Nat.le_trans (classEscape_length heq2) (classCodePoint_length heq)

/-- The atoms of a class up to its `]`, added to `set`; the token is built when the `]` is
read.  The input running out first leaves the class unterminated. -/
def classBody (m : Mode) (invert : Bool) (set : CodePointSet) : List Nat → Scanned Token
  | [] => .error (.unterminatedClass, [])
  | c :: rest =>
    if c == unit ']' then .ok (classToken m set invert, rest)
    else
      match h : classAtom m set c rest with
      | .error err => .error err
      | .ok (set', after) =>
        have : after.length < (c :: rest).length := by
          have := classAtom_length h
          simp only [List.length_cons]
          omega
        classBody m invert set' after
termination_by input => input.length
decreasing_by exact this

theorem classBody_length {m : Mode} {invert : Bool} {set : CodePointSet} {input rest : List Nat}
    {t : Token} (h : classBody m invert set input = .ok (t, rest)) :
    rest.length ≤ input.length := by
  fun_induction classBody m invert set input with
  | case1 => cases h
  | case2 _ c tail _ =>
    cases h
    simp only [List.length_cons]
    omega
  | case3 => cases h
  | case4 _ c tail _ _ after _ hlt ih =>
    have := ih h
    omega

/-- A character class, read from the input after its `[`. -/
def charClass (m : Mode) (input : List Nat) : Scanned Token :=
  if startsWith input "^" then classBody m true CodePointSet.empty (input.drop 1)
  else classBody m false CodePointSet.empty input

theorem charClass_length {m : Mode} {input rest : List Nat} {t : Token}
    (h : charClass m input = .ok (t, rest)) : rest.length ≤ input.length := by
  simp only [charClass] at h
  split at h
  · have := classBody_length h
    simp only [List.length_drop] at this
    omega
  · exact classBody_length h

end Scan

end EcmaRegex
