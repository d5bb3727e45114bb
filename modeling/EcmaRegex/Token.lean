import EcmaRegex.CodePointSet.Display
/-!
# Tokens

The lexer cuts a pattern into tokens.  A character class carries the set of code points it
matches; a quantifier carries its bounds and whether it is greedy; a backreference carries its
group number.  Every other token is a bare kind.

A token prints as its kind, with the set, the quantifier or the number after it:
`CharClass [U+0061]`, `Quantifier {2,}?`, `BackReference \1`.  A quantifier prints `{m}` when
its maximum equals its minimum, `{m,n}` for another maximum, `{m,}` when it is unbounded, and
then `?` when it is lazy.
-/

namespace EcmaRegex

/-- The bounds of a quantifier and whether it is greedy.  `max` is `none` when unbounded; the
minimum may exceed the maximum, as in `a{2,1}`. -/
structure Quantifier where
  min : Nat
  max : Option Nat
  greedy : Bool
  deriving DecidableEq, Repr, Inhabited

namespace Quantifier

/-- Whether the quantifier has no upper bound. -/
def unbounded (q : Quantifier) : Bool := q.max.isNone

/-- The quantifier written in braces. -/
def display (q : Quantifier) : String :=
  let bounds := match q.max with
    | some m => if m = q.min then toString q.min else toString q.min ++ "," ++ toString m
    | none => toString q.min ++ ","
  "\x7b" ++ bounds ++ "\x7d" ++ (if q.greedy then "" else "?")

end Quantifier

/-- The kind of a token. -/
inductive TokenKind where
  | charClass
  | caret
  | dollar
  | alternation
  | captureGroupBegin
  | nonCaptureGroupBegin
  | lookAheadBegin
  | negativeLookAheadBegin
  | lookBehindBegin
  | groupEnd
  | quantifier
  | wordBoundary
  | nonWordBoundary
  | backReference
  deriving DecidableEq, Repr, Inhabited

namespace TokenKind

/-- Whether a quantifier may follow a token of this kind: a character class, the end of a
group, or a backreference. -/
def isQuantifiable : TokenKind → Bool
  | charClass | groupEnd | backReference => true
  | _ => false

/-- The kind's name. -/
def name : TokenKind → String
  | charClass => "CharClass"
  | caret => "Caret"
  | dollar => "Dollar"
  | alternation => "Alternation"
  | captureGroupBegin => "CaptureGroupBegin"
  | nonCaptureGroupBegin => "NonCaptureGroupBegin"
  | lookAheadBegin => "LookAheadAssertionBegin"
  | negativeLookAheadBegin => "NegativeLookAheadAssertionBegin"
  | lookBehindBegin => "LookBehindAssertionBegin"
  | groupEnd => "GroupEnd"
  | quantifier => "Quantifier"
  | wordBoundary => "WordBoundary"
  | nonWordBoundary => "NonWordBoundary"
  | backReference => "BackReference"

end TokenKind

/-- A token of a pattern. -/
inductive Token where
  | charClass (set : CodePointSet)
  | caret
  | dollar
  | alternation
  | captureGroupBegin
  | nonCaptureGroupBegin
  | lookAheadBegin
  | negativeLookAheadBegin
  | lookBehindBegin
  | groupEnd
  | quantifier (q : Quantifier)
  | wordBoundary
  | nonWordBoundary
  | backReference (number : Nat)
  deriving DecidableEq, Repr, Inhabited

namespace Token

/-- The token's kind. -/
def kind : Token → TokenKind
  | charClass _ => .charClass
  | caret => .caret
  | dollar => .dollar
  | alternation => .alternation
  | captureGroupBegin => .captureGroupBegin
  | nonCaptureGroupBegin => .nonCaptureGroupBegin
  | lookAheadBegin => .lookAheadBegin
  | negativeLookAheadBegin => .negativeLookAheadBegin
  | lookBehindBegin => .lookBehindBegin
  | groupEnd => .groupEnd
  | quantifier _ => .quantifier
  | wordBoundary => .wordBoundary
  | nonWordBoundary => .nonWordBoundary
  | backReference _ => .backReference

/-- The set of a character class token. -/
def set? : Token → Option CodePointSet
  | charClass s => some s
  | _ => none

/-- The token as it prints. -/
def display : Token → String
  | charClass s => "CharClass " ++ s.display
  | quantifier q => "Quantifier " ++ q.display
  | backReference n => "BackReference \\" ++ toString n
  | t => t.kind.name

end Token

end EcmaRegex
