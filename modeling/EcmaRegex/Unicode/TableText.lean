import EcmaRegex.CodePointSet.Basic
/-!
# Table text

The width and line break data is stored as text, which Lean reads far faster than lists of
numerals.  (The tables that proofs evaluate, of properties and case folding, are lists of raw
literals instead: see `GeneralCategory.ranges`.)

Table text is a sequence of groups separated by commas; a group is a sequence of numbers in
upper-case hexadecimal separated by single spaces.  A range table writes each range as a group
of its two ends, or of its one point; a table of classes or pairs writes one group each.

`TableText.groups` reads any table text; characters other than hexadecimal digits, spaces and
commas do not occur in the tables and are read as the digit zero.
-/

namespace EcmaRegex

namespace TableText

/-- The value of a hexadecimal digit, upper or lower case; zero for any other character. -/
def digitValue (c : Char) : Nat :=
  if '0' ≤ c ∧ c ≤ '9' then c.toNat - '0'.toNat
  else if 'A' ≤ c ∧ c ≤ 'F' then c.toNat - 'A'.toNat + 10
  else if 'a' ≤ c ∧ c ≤ 'f' then c.toNat - 'a'.toNat + 10
  else 0

/-- Read table text.  `acc` is the number being read, `reading` whether a digit of it has been
seen, `group` the numbers of the current group and `done` the finished groups, both in
reverse order. -/
def groupsFrom (acc : Nat) (reading : Bool) (group : List Nat) (done : List (List Nat)) :
    List Char → List (List Nat)
  | [] =>
    let group := if reading then acc :: group else group
    (if group.isEmpty then done else group.reverse :: done).reverse
  | c :: cs =>
    if c = ',' then
      let group := if reading then acc :: group else group
      groupsFrom 0 false [] (group.reverse :: done) cs
    else if c = ' ' then
      groupsFrom 0 false (if reading then acc :: group else group) done cs
    else groupsFrom (acc * 16 + digitValue c) true group done cs

/-- The groups of numbers that table text lists. -/
def groups (text : String) : List (List Nat) :=
  groupsFrom 0 false [] [] text.toList

/-- The range a group of one or two numbers stands for. -/
def rangeOf : List Nat → CodePointRange
  | [lo, hi] => ⟨lo, hi⟩
  | [c] => ⟨c, c⟩
  | _ => ⟨0, 0⟩

/-- The ranges that a range table lists. -/
def ranges (text : String) : List CodePointRange :=
  (groups text).map rangeOf

end TableText

end EcmaRegex
