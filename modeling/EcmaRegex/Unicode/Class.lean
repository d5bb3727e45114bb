import EcmaRegex.CodePointSet.Basic
/-!
# Classes of characters and the Unicode library

Case folding and property escapes are computed by a Unicode library, which works on classes of
characters: lists of ranges whose ends are Unicode scalar values, so that a surrogate `0xD800`
to `0xDFFF` is never the end of a range.  `toClass` hands such a library the part of a code point
set that it can hold: each range of the set is cut around the surrogates, and a part is kept
when it is not empty and both its ends are characters.  `fromClass` reads a class back as a code
point set, and `fromHir` reads what the library's parser makes of a property escape.

The library itself is not part of this development: `UnicodeLibrary` names the operations that
are called, and the statements about them say what they assume of it.  A range of a class
covers every value from its start to its end, as the library counts the members of a range.
-/

namespace EcmaRegex

/-- The surrogate code points, which are not characters. -/
def surrogates : CodePointRange := ⟨0xD800, 0xDFFF⟩

/-- A range of characters from `start` to `stop`. -/
structure CharRange where
  start : Char
  stop : Char
  ordered : start ≤ stop

namespace CharRange

/-- The range between two characters, taken in whichever order they come. -/
def new (a b : Char) : CharRange :=
  if h : a ≤ b then ⟨a, b, h⟩ else ⟨b, a, (Char.le_total a b).resolve_left h⟩

/-- The range of code points from the start to the end. -/
def codeRange (r : CharRange) : CodePointRange := ⟨r.start.toNat, r.stop.toNat⟩

/-- Whether the range covers the value `n`. -/
def covers (r : CharRange) (n : Nat) : Bool := r.codeRange.contains n

end CharRange

/-- A class of characters, as its ranges. -/
structure UnicodeClass where
  ranges : List CharRange

namespace UnicodeClass

/-- Whether some range of the class covers the value `n`. -/
def covers (c : UnicodeClass) (n : Nat) : Bool := c.ranges.any (·.covers n)

/-- What is asked of the library's building of a class from ranges, which sorts and merges
them: the class covers what the ranges cover. -/
def KeepsCover (build : List CharRange → UnicodeClass) : Prop :=
  ∀ rs n, (build rs).covers n = rs.any (·.covers n)

end UnicodeClass

/-- What the library's parser makes of a pattern, as far as a property escape looks at it. -/
inductive Hir where
  /-- A class of characters. -/
  | unicodeClass (c : UnicodeClass)
  /-- A class of bytes, with its ranges. -/
  | bytesClass (ranges : List (Nat × Nat))
  /-- A literal, as its UTF-8 bytes. -/
  | literal (bytes : List UInt8)
  /-- Any other expression. -/
  | other

/-- The operations of the Unicode library that case folding and property escapes call. -/
structure UnicodeLibrary where
  /-- Build a class from ranges, which the library sorts and merges. -/
  classOf : List CharRange → UnicodeClass
  /-- The class with every character added whose simple case folding is that of a character
  of the class, or nothing when the library carries no case data. -/
  foldSimple : UnicodeClass → Option UnicodeClass
  /-- What the library's parser makes of a pattern, or nothing when it refuses the pattern. -/
  parse : String → Option Hir

/-- What case folding asks of the library, for a simple case folding `scf` of the characters:
building a class keeps what its ranges cover, and folding a class succeeds and adds exactly the
characters whose folding is that of a character the class covers. -/
structure UnicodeLibrary.FoldsSimply (lib : UnicodeLibrary) (scf : Nat → Nat) : Prop where
  keepsCover : UnicodeClass.KeepsCover lib.classOf
  foldSimple : ∀ c, ∃ folded, lib.foldSimple c = some folded ∧ ∀ n,
    folded.covers n = true ↔
      c.covers n = true ∨ (n.isValidChar ∧ ∃ m, m.isValidChar ∧ c.covers m = true ∧ scf n = scf m)

/-- The character with the scalar value `n`, when `n` is one. -/
def charOfCode? (n : Nat) : Option Char :=
  if n.isValidChar then some (Char.ofNat n) else none

/-- The range of characters from `lo` to `hi`, when it is not empty and both its ends are
characters. -/
def classPiece? (lo hi : Nat) : Option CharRange :=
  if hi < lo then none
  else match charOfCode? lo, charOfCode? hi with
    | some a, some b => some (CharRange.new a b)
    | _, _ => none

/-- The parts of a range that a class can hold: the part below the surrogates and the part above
them, each when `classPiece?` keeps it. -/
def classPieces (r : CodePointRange) : List CharRange :=
  [(r.lo, min r.hi (surrogates.lo - 1)), (max r.lo (surrogates.hi + 1), r.hi)].filterMap
    fun bounds => classPiece? bounds.1 bounds.2

/-- The part of a set that is not a surrogate, as a class built by `build`. -/
def toClass (build : List CharRange → UnicodeClass) (s : CodePointSet) : UnicodeClass :=
  build (s.ranges.flatMap classPieces)

/-- The code point set of the values a class covers. -/
def fromClass (c : UnicodeClass) : CodePointSet :=
  CodePointSet.ofRanges (c.ranges.map CharRange.codeRange)

/-- The set of a translated property escape: a class of characters as the code points it covers,
a class of bytes with no range as the empty set, and a literal of one character as that
character; nothing for anything else. -/
def fromHir : Hir → Option CodePointSet
  | .unicodeClass c => some (fromClass c)
  | .bytesClass ranges => if ranges.isEmpty then some CodePointSet.empty else none
  | .literal bytes =>
    match String.fromUTF8? ⟨bytes.toArray⟩ with
    | some text =>
      match text.toList with
      | [ch] => some (CodePointSet.ofCodePoint ch.toNat)
      | _ => none
    | none => none
  | .other => none

end EcmaRegex
