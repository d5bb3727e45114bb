/-!
# Pattern flags

The six flag letters of an ECMAScript regular expression, `g i m s u y`.  A flag string
is read left to right; it is refused at its first letter that is not a flag letter, or that
names a flag already given.  A flag set prints its letters in the canonical order
`g i m s u y`, and its bit value gives `g` one, `i` two, and so on up to thirty-two for `y`.
-/

namespace EcmaRegex

/-- One regular-expression flag. -/
inductive Flag where
  | global
  | ignoreCase
  | multiline
  | dotAll
  | unicode
  | sticky
  deriving DecidableEq, Repr, Inhabited

namespace Flag

/-- Every flag, in canonical order. -/
def all : List Flag := [global, ignoreCase, multiline, dotAll, unicode, sticky]

/-- The letter that names the flag. -/
def letter : Flag → Char
  | global => 'g'
  | ignoreCase => 'i'
  | multiline => 'm'
  | dotAll => 's'
  | unicode => 'u'
  | sticky => 'y'

/-- The flag a letter names, if any. -/
def ofLetter? (c : Char) : Option Flag :=
  all.find? (·.letter == c)

/-- The flag's bit in the numeric form of a flag set. -/
def bit : Flag → Nat
  | global => 1
  | ignoreCase => 2
  | multiline => 4
  | dotAll => 8
  | unicode => 16
  | sticky => 32

end Flag

/-- A set of flags, one switch per flag. -/
structure Flags where
  global : Bool := false
  ignoreCase : Bool := false
  multiline : Bool := false
  dotAll : Bool := false
  unicode : Bool := false
  sticky : Bool := false
  deriving DecidableEq, Repr, Inhabited

/-- Why a flag string is refused: a letter that is no flag, or a flag given twice. -/
inductive FlagsError where
  | invalid (c : Char)
  | duplicate (c : Char)
  deriving DecidableEq, Repr

namespace FlagsError

/-- The offending letter. -/
def letter : FlagsError → Char
  | invalid c => c
  | duplicate c => c

/-- The error's text. -/
def message : FlagsError → String
  | invalid c => "Invalid regular expression flag '" ++ c.toString ++ "'."
  | duplicate c => "Duplicate regular expression flag '" ++ c.toString ++ "'."

end FlagsError

namespace Flags

/-- The set with no flag. -/
def none : Flags := {}

/-- Whether the set holds the flag. -/
def has (f : Flags) : Flag → Bool
  | .global => f.global
  | .ignoreCase => f.ignoreCase
  | .multiline => f.multiline
  | .dotAll => f.dotAll
  | .unicode => f.unicode
  | .sticky => f.sticky

/-- The set with one more flag. -/
def insert (f : Flags) : Flag → Flags
  | .global => { f with global := true }
  | .ignoreCase => { f with ignoreCase := true }
  | .multiline => { f with multiline := true }
  | .dotAll => { f with dotAll := true }
  | .unicode => { f with unicode := true }
  | .sticky => { f with sticky := true }

/-- Read flag letters into `acc`, stopping at the first letter that is no flag or that
repeats one already read. -/
def parseFrom (acc : Flags) : List Char → Except FlagsError Flags
  | [] => .ok acc
  | c :: cs =>
    match Flag.ofLetter? c with
    | Option.none => .error (.invalid c)
    | some flag => if acc.has flag then .error (.duplicate c) else parseFrom (acc.insert flag) cs

/-- Read a flag string. -/
def parse (text : String) : Except FlagsError Flags :=
  parseFrom none text.toList

/-- The letters of the set in canonical order. -/
def text (f : Flags) : String :=
  String.ofList ((Flag.all.filter f.has).map Flag.letter)

/-- The numeric form of the set: the sum of the bits of its flags. -/
def bits (f : Flags) : Nat :=
  ((Flag.all.filter f.has).map Flag.bit).foldl (· + ·) 0

end Flags

end EcmaRegex
