import EcmaRegex.Lexer.Step
import EcmaRegex.Source
import EcmaRegex.Text.Span
/-!
# The lexer

A `Lexer` walks over the units of one pattern, producing one token per call of
`Lexer.nextToken`.  Its state is the position reached, the start of the token being read (so
that both a token and an error can report their span), the kind of the last token read
successfully, and the count of capture groups opened so far, the whole pattern counting as
group one.

`Lexer.nextToken` is not fused: after an error the position stays where scanning stopped and
the next call reads on from there, with the last token left as it was.  `Lexer.next` is the
fused reading: it yields nothing once the input is used up or an error has been yielded.

`Lexer.tokenize` reads the whole pattern, stopping at the first error.  It ends because every
token consumes at least one unit: `Lexer.nextToken_index` says so.
-/

namespace EcmaRegex

/-- The state of a lexer over one pattern, with the Unicode library it asks. -/
structure Lexer where
  source : Source
  library : UnicodeLibrary
  /-- The number of units read so far. -/
  index : Nat := 0
  /-- Where the token being read, or last read, starts. -/
  tokenStart : Nat := 0
  /-- The kind of the last token read successfully. -/
  lastToken : Option TokenKind := none
  /-- One more than the number of capture groups opened so far, saturating at `2 ^ 32 - 1`. -/
  groupCount : Nat := 1
  /-- Whether `Lexer.next` has yielded an error. -/
  failed : Bool := false

/-- A token with the span of units it was read from. -/
structure Lexeme where
  token : Token
  span : TextSpan
  deriving DecidableEq, Repr

namespace Lexer

/-- A lexer at the start of the pattern. -/
def new (library : UnicodeLibrary) (source : Source) : Lexer := { source, library }

/-- The grammar the lexer reads with. -/
def mode (l : Lexer) : Scan.Mode := ⟨l.source.flags, l.source.options, l.library⟩

/-- The number of units in the pattern. -/
def size (l : Lexer) : Nat := l.source.units.length

/-- Whether input is left to read. -/
def hasNext (l : Lexer) : Bool := l.index < l.size

/-- A position as a 32-bit offset, saturating. -/
def position (i : Nat) : Nat := min i Scan.u32Max

/-- The span of the last token read, or of the token being read when an error was met. -/
def tokenSpan (l : Lexer) : TextSpan := TextSpan.between (position l.tokenStart) (position l.index)

/-- The units not yet read. -/
def rest (l : Lexer) : List Nat := l.source.units.drop l.index

/-- The error for `problem` met while reading the current token. -/
def syntaxError (l : Lexer) (problem : Problem) : SyntaxError :=
  ⟨l.source.text, l.source.flags, problem, l.tokenSpan⟩

/-- The group count after reading a token of the given kind. -/
def countGroup (groups : Nat) (kind : TokenKind) : Nat :=
  if kind == .captureGroupBegin then min (groups + 1) Scan.u32Max else groups

/-- Read the next token.  On success the position moves past it, and its kind becomes the
last token; on an error the position moves to where scanning stopped.  At the end of the
input this is the error for an unexpected end, with an empty span. -/
def nextToken (l : Lexer) : Except SyntaxError Token × Lexer :=
  let l := { l with tokenStart := l.index }
  match Scan.token l.mode l.groupCount l.lastToken l.rest with
  | .ok (t, after) =>
    (.ok t, { l with index := l.size - after.length, lastToken := some t.kind,
                     groupCount := countGroup l.groupCount t.kind })
  | .error (problem, after) =>
    let l := { l with index := l.size - after.length }
    (.error (l.syntaxError problem), l)

/-- Read the next token as an iterator: nothing once the input is used up or an error has
been yielded, and otherwise the result of `nextToken`. -/
def next (l : Lexer) : Option (Except SyntaxError Token) × Lexer :=
  if l.failed || !l.hasNext then (none, l)
  else
    match l.nextToken with
    | (.ok t, l') => (some (.ok t), l')
    | (.error e, l') => (some (.error e), { l' with failed := true })

theorem nextToken_source (l : Lexer) : (l.nextToken).2.source = l.source := by
  simp only [nextToken]
  split <;> rfl

theorem nextToken_library (l : Lexer) : (l.nextToken).2.library = l.library := by
  simp only [nextToken]
  split <;> rfl

/-- A token read with input left consumes at least one unit. -/
theorem nextToken_index {l l' : Lexer} {t : Token} (hn : l.hasNext = true)
    (h : l.nextToken = (.ok t, l')) : l.index < l'.index := by
  simp only [hasNext, decide_eq_true_eq] at hn
  simp only [nextToken] at h
  split at h
  · next t' after heq =>
    cases h
    have hrest : ({ l with tokenStart := l.index } : Lexer).rest =
        l.source.units.drop l.index := rfl
    rw [hrest] at heq
    have hlen : (l.source.units.drop l.index).length = l.size - l.index := by
      simp only [List.length_drop, size]
    match hd : l.source.units.drop l.index with
    | [] =>
      rw [hd] at hlen
      simp only [List.length_nil] at hlen
      omega
    | c :: tail =>
      rw [hd] at heq hlen
      have := Scan.token_length heq
      simp only [List.length_cons] at hlen
      show l.index < l.size - after.length
      omega
  · cases h

/-- Read tokens until the input is used up or an error is met; the tokens read are
appended to `acc`. -/
def tokenizeFrom (l : Lexer) (acc : Array Lexeme) : Array Lexeme × Option SyntaxError :=
  if hn : l.hasNext = true then
    match h : l.nextToken with
    | (.ok t, l') =>
      have : l'.size - l'.index < l.size - l.index := by
        have hs : l'.size = l.size := by
          simp only [size]
          rw [← nextToken_source l, h]
        have := nextToken_index hn h
        simp only [hasNext, decide_eq_true_eq] at hn
        omega
      tokenizeFrom l' (acc.push ⟨t, l'.tokenSpan⟩)
    | (.error e, _) => (acc, some e)
  else (acc, none)
termination_by l.size - l.index

/-- The tokens of a whole pattern with their spans, up to the first error, and that error if
there is one. -/
def tokenize (library : UnicodeLibrary) (source : Source) : List Lexeme × Option SyntaxError :=
  let (tokens, error) := tokenizeFrom (new library source) #[]
  (tokens.toList, error)

end Lexer

/-- The tokens of a whole pattern, or its first syntax error. -/
def tokenize (library : UnicodeLibrary) (source : Source) : Except SyntaxError (List Token) :=
  match Lexer.tokenize library source with
  | (lexemes, none) => .ok (lexemes.map (·.token))
  | (_, some e) => .error e

end EcmaRegex
