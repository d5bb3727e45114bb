import EcmaRegex.Unicode.Class
import EcmaRegex.Unicode.Uppercase
/-!
# Case folding

Under the `i` flag a character class matches a code point when it matches any code point of
the same case class.  Two notions of case class are in use, one per grammar.

* With the `u` flag, the classes are those of Unicode simple case folding, which the Unicode
  library computes: the part of the set that is not a surrogate goes to the library as a class
  of characters, the library adds to it every character of the same folding, and the class it
  gives back is added to the set.  Surrogates have no case and stay as they are.
* Without it, two code points are in one class when ECMAScript's `Canonicalize` maps them to
  the same code point.  `Canonicalize` takes the uppercase form of a code point when that form
  is a single code point, except that a code point above ASCII never maps into ASCII: so
  U+017F LATIN SMALL LETTER LONG S stays apart from `s`, and U+212A KELVIN SIGN from `k`.
  These classes are computed once, as lists; folding a set adds every class that meets it.

The empty set and the full set are their own folds.
-/

namespace EcmaRegex

namespace CaseFold

/-- The code points whose uppercase form is a single other code point, with that form. -/
def uppercasePairs : List (Nat × Nat) :=
  Unicode.uppercaseMap

/-- The uppercase form of a code point, when it is one code point other than itself. -/
def uppercase? (c : Nat) : Option Nat :=
  List.lookup c uppercasePairs

/-- ECMAScript's `Canonicalize` for patterns without the `u` flag: the single uppercase form
of `c`, unless there is none or it would take a non-ASCII code point into ASCII. -/
def canonicalize (c : Nat) : Nat :=
  match uppercase? c with
  | some u => if 128 ≤ c ∧ u < 128 then c else u
  | none => c

/-- Group pairs sorted by their first component: each key with the second components of the
pairs that carry it. -/
def groupByKey : List (Nat × Nat) → List (Nat × List Nat)
  | [] => []
  | (k, c) :: rest =>
    match groupByKey rest with
    | (k', cs) :: more => if k = k' then (k, c :: cs) :: (more) else (k, [c]) :: (k', cs) :: more
    | [] => [(k, [c])]

/-- The code points of the uppercase table that `Canonicalize` moves, each after its canonical
form. -/
def movedPairs : List (Nat × Nat) :=
  uppercasePairs.filterMap fun (c, _) =>
    let k := canonicalize c
    if k = c then none else some (k, c)

/-- The classes of `Canonicalize`: each canonical form with the code points it is the form of,
ascending, for every canonical form that some other code point maps to. -/
def canonicalClasses : List (List Nat) :=
  (groupByKey (movedPairs.mergeSort fun a b => a.1 ≤ b.1)).map fun (k, cs) =>
    (k :: cs).mergeSort (· ≤ ·)

/-- The set with every class that meets it added. -/
def closeUnder (classes : List (List Nat)) (s : CodePointSet) : CodePointSet :=
  classes.foldl (fun acc cl => if cl.any s.contains then cl.foldl CodePointSet.addCodePoint acc else acc) s

/-- Fold a set by simple case folding through the library, which is handed the part of the set
that is not a surrogate; the class it gives back is added to the set, so that the surrogates of
the set stay.  Without case data in the library the set is returned as it is. -/
def simple (lib : UnicodeLibrary) (s : CodePointSet) : CodePointSet :=
  match lib.foldSimple (toClass lib.classOf s) with
  | some folded => s.union (fromClass folded)
  | none => s

/-- Fold a set by `Canonicalize`. -/
def canonical (s : CodePointSet) : CodePointSet :=
  closeUnder canonicalClasses s

/-- Fold a set for a pattern with (`unicode`) or without the `u` flag.  The empty and the
full set are returned as they are. -/
def apply (lib : UnicodeLibrary) (s : CodePointSet) (unicode : Bool) : CodePointSet :=
  if s.isEmpty || s.isFull then s
  else if unicode then simple lib s else canonical s

end CaseFold

end EcmaRegex
