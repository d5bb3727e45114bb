/-!
# Code point sets

A `CodePointSet` is a set of Unicode code points, `0` to `0x10FFFF` with the surrogates
`0xD800` to `0xDFFF` as ordinary members, kept as a list of inclusive ranges.

The operations keep the list in normal form: sorted by lower bound, every range inside
`0..0x10FFFF` with `lo ≤ hi`, and any two ranges separated by at least one code point that
neither covers.  In normal form each set has exactly one representation, so equality of
sets is equality of range lists and the printed form is canonical.

`addRange` is the one primitive that builds sets.  It finds by two binary searches the window
of ranges that overlap or touch the new range, counting the end of a range plus one in 32-bit
arithmetic that saturates, and splices one range in place of that window: the new range
stretched over the first and the last range of the window.  Union adds the ranges of the other
set one by one, or copies the other set when this one is empty; the constructor from a list of
ranges and the single-point insertion are made of it too.
-/

namespace EcmaRegex

/-- The largest Unicode code point. -/
def maxCodePoint : Nat := 0x10FFFF

/-- The halving loop of the partition point, on the window of `size` elements from `base`:
while the window holds more than one element, its upper half is kept when the element at
its middle satisfies `p` and its lower half otherwise; the last element left decides whether
the answer is its index or the next one. -/
def partitionLoop {α : Type} (p : α → Bool) (xs : List α) (base size : Nat) : Nat :=
  if size ≤ 1 then
    if xs[base]?.any p then base + 1 else base
  else
    let half := size / 2
    let mid := base + half
    partitionLoop p xs (if xs[mid]?.any p then mid else base) (size - half)
termination_by size
decreasing_by omega

/-- The index of the first element of `xs` that does not satisfy `p`, for a list in which
every element satisfying `p` comes before every other one.  This is the standard library's
binary search: it halves a window over the list, taking the same number of steps for every
list of a given length. -/
def partitionPoint {α : Type} (p : α → Bool) (xs : List α) : Nat :=
  if xs.isEmpty then 0 else partitionLoop p xs 0 xs.length

/-- `n + 1` in 32-bit arithmetic that saturates instead of wrapping. -/
def succSaturating (n : Nat) : Nat := min (n + 1) 0xFFFFFFFF

/-- The inclusive range of code points from `lo` to `hi`. -/
structure CodePointRange where
  lo : Nat
  hi : Nat
  deriving DecidableEq, Repr, Inhabited

namespace CodePointRange

/-- Whether the range covers the code point `c`. -/
def contains (r : CodePointRange) (c : Nat) : Bool :=
  r.lo ≤ c && c ≤ r.hi

/-- The number of code points the range covers. -/
def size (r : CodePointRange) : Nat :=
  r.hi + 1 - r.lo

end CodePointRange

/-- A set of code points as a list of inclusive ranges in normal form. -/
structure CodePointSet where
  ranges : List CodePointRange
  deriving DecidableEq, Repr, Inhabited

namespace CodePointSet

/-- The set with no code point. -/
def empty : CodePointSet := ⟨[]⟩

/-- The set of every code point, surrogates included. -/
def full : CodePointSet := ⟨[⟨0, maxCodePoint⟩]⟩

/-- The set of the code points from `lo` to `hi`. -/
def ofRange (lo hi : Nat) : CodePointSet := ⟨[⟨lo, hi⟩]⟩

/-- The set holding the single code point `c`. -/
def ofCodePoint (c : Nat) : CodePointSet := ofRange c c

/-- The list with its ranges from index `start` up to `stop` replaced by one range: `lo..hi`
stretched over the first and the last range of that window, or `lo..hi` alone when the window
is empty. -/
def spliceRange (rs : List CodePointRange) (lo hi start stop : Nat) : List CodePointRange :=
  let merged : CodePointRange :=
    if start < stop then ⟨min lo (rs.getD start default).lo, max hi (rs.getD (stop - 1) default).hi⟩
    else ⟨lo, hi⟩
  rs.take start ++ merged :: rs.drop stop

/-- Add the range `lo..hi` to the set.  The window of ranges to merge with it starts at the
first range that does not end two or more below `lo` and stops before the first range that
starts two or more above `hi`; both ends are found by binary search. -/
def addRange (s : CodePointSet) (lo hi : Nat) : CodePointSet :=
  ⟨spliceRange s.ranges lo hi (partitionPoint (fun r => decide (succSaturating r.hi < lo)) s.ranges)
    (partitionPoint (fun r => decide (r.lo ≤ succSaturating hi)) s.ranges)⟩

/-- Add the code point `c` to the set. -/
def addCodePoint (s : CodePointSet) (c : Nat) : CodePointSet :=
  s.addRange c c

/-- Add the ranges to the set one after another. -/
def addRanges (s : CodePointSet) (rs : List CodePointRange) : CodePointSet :=
  rs.foldl (fun acc r => acc.addRange r.lo r.hi) s

/-- The union of two sets: a copy of `t` when `s` is empty, and otherwise every range of `t`
added to `s`, in order. -/
def union (s t : CodePointSet) : CodePointSet :=
  if s.ranges.isEmpty then t else s.addRanges t.ranges

/-- The set built by adding the ranges one after another to the empty set.  The ranges may
come in any order and may overlap. -/
def ofRanges (rs : List CodePointRange) : CodePointSet :=
  empty.addRanges rs

/-- The gaps of a sorted range list, starting the search at `next`: the ranges of code
points at least `next` and at most `0x10FFFF` that no range covers. -/
def gapsFrom (next : Nat) : List CodePointRange → List CodePointRange
  | [] => if next ≤ maxCodePoint then [⟨next, maxCodePoint⟩] else []
  | r :: rest =>
    if next < r.lo then ⟨next, r.lo - 1⟩ :: gapsFrom (r.hi + 1) rest
    else gapsFrom (r.hi + 1) rest

/-- The complement of the set within `0..0x10FFFF`. -/
def complement (s : CodePointSet) : CodePointSet :=
  ⟨gapsFrom 0 s.ranges⟩

/-- Whether the set holds the code point `c`. -/
def contains (s : CodePointSet) (c : Nat) : Bool :=
  s.ranges.any (·.contains c)

/-- The number of code points in the set. -/
def size (s : CodePointSet) : Nat :=
  s.ranges.foldl (fun n r => n + r.size) 0

/-- Whether the set has no member. -/
def isEmpty (s : CodePointSet) : Bool :=
  s.ranges.isEmpty

/-- Whether the set holds every code point. -/
def isFull (s : CodePointSet) : Bool :=
  s.ranges == [⟨0, maxCodePoint⟩]

end CodePointSet

end EcmaRegex
