import EcmaRegex.Lexer.Step
/-!
# What the first unit of a token opens

`Scan.token` picks the scanner of a token by testing its first unit against the syntax
characters one after the other.  `Scan.opener` names where those tests end and `Scan.opened` runs
the scanner each end names, and `Scan.token_cons` says that a token is read by the scanner its
first unit opens.  A proof about every token is then one case split on the opener, a case for
each scanner, and what a case knows of the first unit is read off the opener:

* a backslash opens the escape (`opener_eq_escape`);
* a high surrogate opens the code point of its pair, which only the unicode grammar reads
  (`opener_eq_pair`, `opener_of_isHigh`);
* the legacy grammar opens what the unicode grammar opens, but reads a lone `}` or `]`, and a
  high surrogate, as a character (`opener_legacy`).

Each is decided over the fourteen syntax units, and follows for every other unit from
`opener_of_not_mem_syntaxUnits`: such a unit opens a character.
-/

namespace EcmaRegex

namespace Scan

/-- The scanners that the first unit of a token can open. -/
inductive Opener where
  | dot | caret | dollar | quantifier | loneBrace | alternation | groupBegin | groupEnd
  | charClass | loneBracket | escape | pair | literal
  deriving DecidableEq, Repr

/-- The scanner that the first unit `c` of a token opens, with the `u` flag or without it: the
tests of `token`, in its order. -/
def opener (unicode : Bool) (c : Nat) : Opener :=
  if c == unit '.' then .dot
  else if c == unit '^' then .caret
  else if c == unit '$' then .dollar
  else if c == unit '{' || c == unit '*' || c == unit '+' || c == unit '?' then .quantifier
  else if c == unit '}' && unicode then .loneBrace
  else if c == unit '|' then .alternation
  else if c == unit '(' then .groupBegin
  else if c == unit ')' then .groupEnd
  else if c == unit '[' then .charClass
  else if c == unit ']' && unicode then .loneBracket
  else if c == unit '\\' then .escape
  else if unicode && Utf16.isHigh c then .pair
  else .literal

/-- What the scanner an opener names reads after the first unit `c`. -/
def opened (m : Mode) (groups : Nat) (lastToken : Option TokenKind) (c : Nat)
    (rest : List Nat) : Opener → Scanned Token
  | .dot => .ok (classToken m (if m.flags.dotAll then Predefined.dotAll else Predefined.dot) false,
      rest)
  | .caret => .ok (.caret, rest)
  | .dollar => .ok (.dollar, rest)
  | .quantifier => quantifier m lastToken c rest
  | .loneBrace => .error (.loneBrace, rest)
  | .alternation => .ok (.alternation, rest)
  | .groupBegin => .ok (groupBegin rest)
  | .groupEnd => .ok (.groupEnd, rest)
  | .charClass => charClass m rest
  | .loneBracket => .error (.loneBracket, rest)
  | .escape => escape m groups rest
  | .pair => .ok (single m (surrogatePair c rest).1, (surrogatePair c rest).2)
  | .literal => .ok (single m c, rest)

/-- A token is read by the scanner its first unit opens. -/
theorem token_cons (m : Mode) (groups : Nat) (lastToken : Option TokenKind) (c : Nat)
    (rest : List Nat) :
    token m groups lastToken (c :: rest) =
      opened m groups lastToken c rest (opener m.unicode c) := by
  -- both are one chain of the same tests, with the scanner of each end at its leaf
  rw [token.eq_2, opener]
  simp only [apply_ite (opened m groups lastToken c rest)]
  rfl

/-! ### The syntax units -/

/-- The units that are syntax wherever they stand outside a class:
`^ $ \ . * + ? ( ) [ ] { } |`. -/
def syntaxUnits : List Nat :=
  ['^', '$', '\\', '.', '*', '+', '?', '(', ')', '[', ']', '{', '}', '|'].map unit

/-- Every syntax unit is ASCII, so no unit of a character above ASCII is one. -/
theorem not_mem_syntaxUnits {u : Nat} (hu : 0x80 ≤ u) : u ∉ syntaxUnits := by
  intro h
  simp only [syntaxUnits, List.map_cons, List.map_nil, List.mem_cons, List.not_mem_nil,
    or_false] at h
  rcases h with h | h | h | h | h | h | h | h | h | h | h | h | h | h <;>
    (rw [h] at hu; exact absurd hu (by decide))

/-- A unit that is no syntax opens a character: the code point of its pair if it is a high
surrogate read by the unicode grammar, else itself. -/
theorem opener_of_not_mem_syntaxUnits {u : Bool} {c : Nat} (hc : c ∉ syntaxUnits) :
    opener u c = if u && Utf16.isHigh c then .pair else .literal := by
  simp only [syntaxUnits, List.map_cons, List.map_nil, List.mem_cons, List.not_mem_nil, or_false,
    not_or] at hc
  obtain ⟨h1, h2, h3, h4, h5, h6, h7, h8, h9, h10, h11, h12, h13, h14⟩ := hc
  simp only [opener, beq_false_of_ne h1, beq_false_of_ne h2, beq_false_of_ne h3,
    beq_false_of_ne h4, beq_false_of_ne h5, beq_false_of_ne h6, beq_false_of_ne h7,
    beq_false_of_ne h8, beq_false_of_ne h9, beq_false_of_ne h10, beq_false_of_ne h11,
    beq_false_of_ne h12, beq_false_of_ne h13, beq_false_of_ne h14, Bool.false_or,
    Bool.false_and, Bool.false_eq_true, if_false]

/-! ### What an opener says of the first unit -/

theorem opener_eq_escape {u : Bool} {c : Nat} (h : opener u c = .escape) : c = unit '\\' := by
  by_cases hc : c ∈ syntaxUnits
  · have hunits : ∀ c ∈ syntaxUnits, opener u c = .escape → c = unit '\\' := by
      cases u <;> decide
    exact hunits c hc h
  · rw [opener_of_not_mem_syntaxUnits hc] at h
    split at h <;> cases h

theorem opener_eq_pair {u : Bool} {c : Nat} (h : opener u c = .pair) :
    u = true ∧ Utf16.isHigh c = true := by
  by_cases hc : c ∈ syntaxUnits
  · have hunits : ∀ c ∈ syntaxUnits, opener u c ≠ .pair := by
      cases u <;> decide
    exact absurd h (hunits c hc)
  · rw [opener_of_not_mem_syntaxUnits hc] at h
    split at h
    · next hpair => simpa only [Bool.and_eq_true] using hpair
    · cases h

theorem opener_of_isHigh {u : Bool} {c : Nat} (hu : u = true) (hc : Utf16.isHigh c = true) :
    opener u c = .pair := by
  have hhigh : 0x80 ≤ c := by
    simp only [Utf16.isHigh, Bool.and_eq_true, decide_eq_true_eq] at hc
    omega
  rw [opener_of_not_mem_syntaxUnits (not_mem_syntaxUnits hhigh), hu, hc]
  rfl

/-- In the unicode grammar a unit that opens no code point of a pair is no high surrogate. -/
theorem isHigh_of_opener_ne_pair {u : Bool} {c : Nat} (h : opener u c ≠ .pair) (hu : u = true) :
    Utf16.isHigh c = false := by
  cases hc : Utf16.isHigh c
  · rfl
  · exact absurd (opener_of_isHigh hu hc) h

/-- What the legacy grammar opens where the other opens `o`: a lone `}` or `]`, and a high
surrogate, are characters there. -/
def Opener.legacy : Opener → Opener
  | .loneBrace | .loneBracket | .pair => .literal
  | o => o

/-- The legacy grammar opens what either grammar opens, but for the scanners only the unicode
grammar has. -/
theorem opener_legacy (u : Bool) (c : Nat) : opener false c = (opener u c).legacy := by
  by_cases hc : c ∈ syntaxUnits
  · have hunits : ∀ c ∈ syntaxUnits, opener false c = (opener u c).legacy := by
      cases u <;> decide
    exact hunits c hc
  · rw [opener_of_not_mem_syntaxUnits hc, opener_of_not_mem_syntaxUnits hc]
    simp only [Bool.false_and, Bool.false_eq_true, if_false]
    split <;> rfl

end Scan

end EcmaRegex
