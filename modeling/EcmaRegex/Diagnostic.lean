import EcmaRegex.Flags
import EcmaRegex.Text.Span
/-!
# Syntax errors and their diagnostics

Each way a pattern can be refused is a `Problem`.  A problem has a numeric code and a
message template with numbered placeholders `{0}`, `{1}`; its text is the template with the
problem's arguments filled in by `fillTemplate`.

`fillTemplate` replaces the placeholders one number at a time: first every `{0}` of the
template, then every `{1}` of the result, and so on.  Text put in for an earlier number is
therefore searched again for the later ones.

A `SyntaxError` is a problem raised while lexing, with the pattern's text, the flags and the
span of the token being scanned.  Its one-line report, the `Diagnostic`, names the input it
came from: `origin(start): error REcode: text`.
-/

namespace EcmaRegex

/-- Replace every occurrence of `pat` in a character list by `rep`, scanning left to right
and continuing after each replaced occurrence. -/
def replaceAll (pat rep : List Char) (s : List Char) : List Char :=
  match pat with
  | [] => s
  | p :: ps =>
    match s with
    | [] => []
    | c :: cs =>
      if (p :: ps).isPrefixOf (c :: cs) then rep ++ replaceAll (p :: ps) rep ((c :: cs).drop (ps.length + 1))
      else c :: replaceAll (p :: ps) rep cs
termination_by s.length
decreasing_by
  all_goals simp only [List.length_drop, List.length_cons]
  all_goals omega

/-- Fill the placeholders `{0}`, `{1}`, … of a template with the arguments, number by number
in increasing order, each step replacing every occurrence in the current text. -/
def fillTemplate (template : String) (args : List String) : String :=
  let step := fun (acc : List Char × Nat) (arg : String) =>
    (replaceAll ("\x7b" ++ toString acc.2 ++ "\x7d").toList arg.toList acc.1, acc.2 + 1)
  String.ofList (args.foldl step (template.toList, 0)).1

/-- A reason the lexer refuses a pattern. -/
inductive Problem where
  | unfinishedEscape
  | invalidEscape
  | invalidControlEscape
  | invalidUnicodeEscape
  | unexpectedEnd
  | invalidPropertyEscape
  | unfinishedPropertyEscape
  | unknownPropertyName (name : String)
  | unknownPropertyValue (name value : String)
  | unterminatedClass
  | loneBracket
  | loneBrace
  | rangeOutOfOrder
  | invalidClass
  | nothingToRepeat
  | quantifierOnQuantifier
  | incompleteQuantifier
  deriving DecidableEq, Repr, Inhabited

namespace Problem

/-- The problem's numeric code. -/
def code : Problem → Nat
  | unfinishedEscape => 1500
  | invalidEscape => 1501
  | invalidControlEscape => 1502
  | invalidUnicodeEscape => 1503
  | unexpectedEnd => 1504
  | invalidPropertyEscape => 1520
  | unfinishedPropertyEscape => 1521
  | unknownPropertyName _ => 1522
  | unknownPropertyValue _ _ => 1523
  | unterminatedClass => 1540
  | loneBracket => 1541
  | loneBrace => 1542
  | rangeOutOfOrder => 1543
  | invalidClass => 1544
  | nothingToRepeat => 1560
  | quantifierOnQuantifier => 1561
  | incompleteQuantifier => 1562

/-- The problem's message template. -/
def template : Problem → String
  | unfinishedEscape => "Ends with an unfinished escape sequence."
  | invalidEscape => "Invalid escape."
  | invalidControlEscape => "Invalid control character escape."
  | invalidUnicodeEscape => "Invalid Unicode escape."
  | unexpectedEnd => "Unexpected end of pattern."
  | invalidPropertyEscape => "Invalid Unicode property escape."
  | unfinishedPropertyEscape => "Ends with an unfinished Unicode property escape."
  | unknownPropertyName _ => "Invalid Unicode property name '{0}'."
  | unknownPropertyValue _ _ => "Invalid value '{1}' for Unicode property '{0}'."
  | unterminatedClass => "Unterminated character class."
  | loneBracket => "Lone quantifier brackets: unmatched ']'."
  | loneBrace => "Lone quantifier brackets: unmatched '\x7d'."
  | rangeOutOfOrder => "Range out of order in character class."
  | invalidClass => "Invalid character class."
  | nothingToRepeat => "Nothing to repeat."
  | quantifierOnQuantifier => "Quantifier on quantifier."
  | incompleteQuantifier => "Incomplete quantifier."

/-- The values the template's placeholders stand for. -/
def args : Problem → List String
  | unknownPropertyName name => [name]
  | unknownPropertyValue name value => [name, value]
  | _ => []

/-- The problem's message. -/
def text (p : Problem) : String :=
  fillTemplate p.template p.args

end Problem

/-- The one-line report of a syntax error, naming the input it came from. -/
structure Diagnostic where
  origin : String
  span : TextSpan
  text : String
  code : Nat
  deriving DecidableEq, Repr

/-- The report written `origin(start): error REcode: text`. -/
def Diagnostic.line (d : Diagnostic) : String :=
  d.origin ++ "(" ++ toString d.span.start ++ "): error RE" ++ toString d.code ++ ": " ++ d.text

/-- A problem raised while lexing a pattern, with the pattern's text (unpaired surrogates
shown as U+FFFD), the flags, and the span of the token that was being scanned. -/
structure SyntaxError where
  pattern : String
  flags : Flags
  problem : Problem
  span : TextSpan
  deriving DecidableEq, Repr

namespace SyntaxError

/-- The error's numeric code. -/
def code (e : SyntaxError) : Nat := e.problem.code

/-- The error's message. -/
def text (e : SyntaxError) : String := e.problem.text

/-- The error written with its pattern between slashes:
`Invalid regular expression: /pattern/flags: text`. -/
def message (e : SyntaxError) : String :=
  "Invalid regular expression: /" ++ e.pattern ++ "/" ++ e.flags.text ++ ": " ++ e.text

/-- The error's one-line report for the input named `origin`. -/
def toDiagnostic (e : SyntaxError) (origin : String) : Diagnostic :=
  ⟨origin, e.span, e.text, e.code⟩

/-- The UTF-8 byte range of the error's span in its pattern text. -/
def byteRange (e : SyntaxError) : Nat × Nat :=
  e.span.toByteRange e.pattern

end SyntaxError

end EcmaRegex
