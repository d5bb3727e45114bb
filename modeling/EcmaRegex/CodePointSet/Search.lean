import EcmaRegex.CodePointSet.Basic
/-!
# Lookup by binary search

A set answers whether it holds a code point by a binary search over its ranges: the index of
the first range that does not end below the code point, and then whether that range covers
it.  The search is the standard library's partition point, which halves a window `base`,
`size` over the list, always taking the same number of steps for a list of a given length,
and reads the element at the window's start once more at the end.

On a list whose elements satisfying the predicate all come first, the partition point is the
length of that prefix.  On any other list its answer is some index at most the length.
-/

namespace EcmaRegex

namespace CodePointSet

/-- Whether the set holds the code point `c`, found by binary search: the first range that
does not end below `c` is the only one that can cover it. -/
def containsBySearch (s : CodePointSet) (c : Nat) : Bool :=
  (s.ranges[partitionPoint (fun r => decide (r.hi < c)) s.ranges]?).any (·.contains c)

end CodePointSet

end EcmaRegex
