import EcmaRegex.Unicode.Width
import EcmaRegex.Unicode.LineBreak
import EcmaRegex.Unicode.Binary
import EcmaRegex.Unicode.GeneralCategory
/-!
# Wrapping text

Filling text into lines of a given number of columns, each line after an indent: the first
line after one indent, all others after a second.  Each line of the text is wrapped on its own.

* Words end where the Unicode line breaking rules allow a break (`Unicode.breakPositions`),
  except after a hyphen or a soft hyphen.  Terminal escape sequences are left out of that
  reading and take no columns; a word boundary that falls on an escape sequence goes before it.
  The spaces at the end of a word belong to it but are not part of its width.
* A word is split after each hyphen that has a letter or digit on both sides.
* A word wider than a line is cut into pieces that fit, each as wide as possible.  The cut is
  made for the width of the lines after the first, so the wrapped words begin with an empty
  word, which lets the first piece move off the first line.
* Lines are filled first-fit: a word goes on the current line while it fits, the spaces before
  it counted.  A line ends without the spaces of its last word.

Widths are those of Unicode 17.0 (`Unicode.WidthTable.unicode17`).
-/

namespace EcmaRegex

namespace Wrap

/-- A text read for measuring: single characters, and terminal escape sequences, which take no
room. -/
inductive Segment where
  | visible (c : Char)
  | escape (text : List Char)
  deriving Repr, Inhabited

/-- Where the reading of a text stands: in plain text, just after an escape character, inside
a control sequence, or inside an operating system command whose last character is given. -/
inductive EscapeState where
  | plain
  | escaped
  | control
  | command (last : Char)
  deriving Repr, Inhabited

/-- Cut a text into segments.  An escape character begins an escape sequence: after it, `[`
begins a control sequence, which runs to a final character between `@` and `~`; `]` begins an
operating system command, which runs to a bell or to an escape character and a backslash; any
other character ends the sequence.  A sequence the text ends in stays unfinished.  `pending` is
the sequence being read, in reverse order. -/
def segmentsFrom (state : EscapeState) (pending : List Char) : List Char → List Segment
  | [] => if pending.isEmpty then [] else [.escape pending.reverse]
  | c :: cs =>
    match state with
    | .plain =>
      if c = '\x1b' then segmentsFrom .escaped [c] cs
      else .visible c :: segmentsFrom .plain [] cs
    | .escaped =>
      if c = '[' then segmentsFrom .control (c :: pending) cs
      else if c = ']' then segmentsFrom (.command c) (c :: pending) cs
      else .escape (c :: pending).reverse :: segmentsFrom .plain [] cs
    | .control =>
      if '@' ≤ c && c ≤ '~' then .escape (c :: pending).reverse :: segmentsFrom .plain [] cs
      else segmentsFrom .control (c :: pending) cs
    | .command last =>
      if c = '\x07' || (c = '\\' && last = '\x1b') then
        .escape (c :: pending).reverse :: segmentsFrom .plain [] cs
      else segmentsFrom (.command c) (c :: pending) cs

/-- The segments of a text. -/
def segments (cs : List Char) : List Segment := segmentsFrom .plain [] cs

namespace Segment

/-- The characters of a segment. -/
def chars : Segment → List Char
  | visible c => [c]
  | escape t => t

/-- The columns a segment takes. -/
def width : Segment → Nat
  | visible c => Unicode.WidthTable.unicode17.width c
  | escape _ => 0

/-- Whether a segment is a character that shows. -/
def isVisible : Segment → Bool
  | visible _ => true
  | escape _ => false

end Segment

/-- Reading segments loses no character: they spell the sequence being read and the rest. -/
theorem segmentsFrom_chars (st : EscapeState) (pending cs : List Char)
    (h : st = .plain → pending = []) :
    (segmentsFrom st pending cs).flatMap Segment.chars = pending.reverse ++ cs := by
  induction cs generalizing st pending with
  | nil =>
    cases hp : pending.isEmpty <;> simp_all [segmentsFrom, Segment.chars]
  | cons c cs ih =>
    cases st with
    | plain =>
      have hp := h rfl
      subst hp
      by_cases hc : c = '\x1b'
      · simp [segmentsFrom, hc, ih]
      · simp [segmentsFrom, hc, Segment.chars, ih]
    | escaped =>
      by_cases h1 : c = '['
      · simp [segmentsFrom, h1, ih]
      · by_cases h2 : c = ']'
        · simp [segmentsFrom, h2, ih]
        · simp [segmentsFrom, h1, h2, Segment.chars, ih]
    | control =>
      by_cases h1 : '@' ≤ c && c ≤ '~'
      · simp [segmentsFrom, h1, Segment.chars, ih]
      · simp [segmentsFrom, h1, ih]
    | command last =>
      by_cases h1 : c = '\x07' || (c = '\\' && last = '\x1b')
      · simp [segmentsFrom, h1, Segment.chars, ih]
      · simp [segmentsFrom, h1, ih]

/-- The segments of a text spell the text. -/
theorem segments_chars (cs : List Char) : (segments cs).flatMap Segment.chars = cs := by
  simpa [segments] using segmentsFrom_chars .plain [] cs (fun _ => rfl)

/-- The columns a text takes, escape sequences taking none. -/
def displayWidth (cs : List Char) : Nat :=
  ((segments cs).map Segment.width).foldl (· + ·) 0

/-- The characters of a text that show, escape sequences left out. -/
def visibleChars (cs : List Char) : List Char :=
  (segments cs).flatMap fun
    | .visible c => [c]
    | .escape _ => []

/-- A word to place on a line: its text, the number of spaces after it, and the columns its
text takes. -/
structure Word where
  text : List Char
  spaces : Nat
  width : Nat
  deriving Repr, Inhabited

/-- The word a stretch of text makes: the spaces it ends in are its spaces. -/
def Word.ofChars (cs : List Char) : Word :=
  let spaces := (cs.reverse.takeWhile (· = ' ')).length
  let text := cs.take (cs.length - spaces)
  ⟨text, spaces, displayWidth text⟩

/-- Split segments into stretches at the given break positions, counted in characters that
show: a stretch begins at the first segment that has as many characters that show before it as
a break position says.  `count` is the number of characters that show before the next segment,
`current` the stretch being gathered, in reverse order. -/
def cutAtBreaks (breaks : List Nat) (count : Nat) (current : List Char) :
    List Segment → List (List Char)
  | [] => if current.isEmpty then [] else [current.reverse]
  | s :: rest =>
    let count' := if s.isVisible then count + 1 else count
    match breaks with
    | b :: bs =>
      if b = count && !current.isEmpty then
        current.reverse :: cutAtBreaks bs count' s.chars.reverse rest
      else cutAtBreaks breaks count' (s.chars.reverse ++ current) rest
    | [] => cutAtBreaks [] count' (s.chars.reverse ++ current) rest

/-- The words of a line of text: it is cut where the line breaking rules allow a break in the
characters that show, except after a hyphen or soft hyphen; the break at the end of the line
is no cut, nor, when the end is no break, the last break before it. -/
def words (line : List Char) : List Word :=
  let shown := visibleChars line
  let breaks := (Unicode.breakPositions shown).filter fun i =>
    !(i > 0 && (shown[i - 1]? = some '-' || shown[i - 1]? = some '\u00AD'))
  (cutAtBreaks breaks.dropLast 0 [] (segments line)).map Word.ofChars

/-- Whether a character is a letter or a digit: alphabetic, or of a general category of
numbers. -/
def isAlphanumeric (c : Char) : Bool :=
  let n := c.toNat
  ((Unicode.binaryProperty? "Alphabetic").getD CodePointSet.empty).contains n ||
    (GeneralCategory.set .decimalNumber).contains n ||
    (GeneralCategory.set .letterNumber).contains n ||
    (GeneralCategory.set .otherNumber).contains n

/-- The positions just after the hyphens of a text that have a letter or digit on both sides.
`prev` is the character before the rest and `i` its position. -/
def hyphenCutsFrom (prev : Option Char) (i : Nat) : List Char → List Nat
  | [] => []
  | c :: cs =>
    let here :=
      c = '-' && (prev.map isAlphanumeric).getD false && (cs.head?.map isAlphanumeric).getD false
    let rest := hyphenCutsFrom (some c) (i + 1) cs
    if here then (i + 1) :: rest else rest

/-- Cut a text at increasing positions, given from position `start` on. -/
def cutAt (start : Nat) (cs : List Char) : List Nat → List (List Char)
  | [] => [cs]
  | p :: ps => cs.take (p - start) :: cutAt p (cs.drop (p - start)) ps

/-- Cutting a text loses nothing. -/
theorem cutAt_flatten (start : Nat) (cs : List Char) (ps : List Nat) :
    (cutAt start cs ps).flatten = cs := by
  induction ps generalizing start cs with
  | nil => simp [cutAt]
  | cons p ps ih => simp [cutAt, ih]

/-- Split a word after its hyphens that stand between letters or digits; the last part keeps
the word's spaces. -/
def splitAtHyphens (w : Word) : List Word :=
  let parts := cutAt 0 w.text (hyphenCutsFrom none 0 w.text)
  let n := parts.length
  parts.zipIdx.map fun (part, i) =>
    ⟨part, if i + 1 = n then w.spaces else 0, displayWidth part⟩

/-- Cut the segments of a word into pieces of at most `limit` columns: a piece ends before the
character that would make it wider, unless the piece is still empty of columns.  `current` is
the piece being gathered, in reverse order, and `used` its columns; `done` the finished pieces
with their widths, in reverse order. -/
def breakApartFrom (limit : Nat) (current : List Char) (used : Nat)
    (done : List (List Char × Nat)) : List Segment → List (List Char × Nat)
  | [] => (if current.isEmpty then done else (current.reverse, used) :: done).reverse
  | s :: rest =>
    if s.isVisible && used > 0 && used + s.width > limit then
      breakApartFrom limit s.chars.reverse s.width ((current.reverse, used) :: done) rest
    else breakApartFrom limit (s.chars.reverse ++ current) (used + s.width) done rest

/-- Cut a word wider than `limit` columns into pieces that fit; the last keeps the word's
spaces. -/
def breakWord (limit : Nat) (w : Word) : List Word :=
  if w.width ≤ limit then [w]
  else
    let pieces := breakApartFrom limit [] 0 [] (segments w.text)
    let n := pieces.length
    pieces.zipIdx.map fun ((text, width), i) => ⟨text, if i + 1 = n then w.spaces else 0, width⟩

/-- The state of filling lines first-fit: the finished lines, the words of the current line,
both in reverse order, and the columns the current line takes with the spaces after its last
word. -/
structure FitState where
  lines : List (List Word) := []
  current : List Word := []
  used : Nat := 0

/-- Fill words into lines first-fit, the first line `first` columns wide and the others
`rest`: a word goes on the current line if it fits there after the words before it and their
spaces, or if the line is still empty. -/
def firstFit (first rest : Nat) (ws : List Word) : List (List Word) :=
  let place := fun (s : FitState) (w : Word) =>
    let limit := if s.lines.isEmpty then first else rest
    if s.used + w.width > limit && !s.current.isEmpty then
      { lines := s.current.reverse :: s.lines, current := [w], used := w.width + w.spaces }
    else { s with current := w :: s.current, used := s.used + w.width + w.spaces }
  let s := ws.foldl place {}
  (s.current.reverse :: s.lines).reverse

/-- The text of a filled line: its words with their spaces, the spaces of the last left out. -/
def lineText (line : List Word) : List Char :=
  match line.reverse with
  | [] => []
  | last :: before =>
    (before.reverse.flatMap fun w => w.text ++ List.replicate w.spaces ' ') ++ last.text

/-- Drop the spaces a text ends in. -/
def trimEndSpaces (cs : List Char) : List Char := (cs.reverse.dropWhile (· = ' ')).reverse

/-- Wrap one line of text into lines, given whether it is the first line of all, which takes
the indent `first`; all others take `rest`. -/
def wrapLine (width : Nat) (first rest : String) (isFirst : Bool) (line : List Char) :
    List String :=
  let indent := if isFirst then first else rest
  if (String.ofList line).utf8ByteSize < width && indent.isEmpty then
    [String.ofList (trimEndSpaces line)]
  else
    let firstWidth := width - displayWidth first.toList
    let restWidth := width - displayWidth rest.toList
    let pieces := ((words line).flatMap splitAtHyphens).flatMap (breakWord restWidth)
    let pieces := if first.isEmpty then pieces else ⟨[], 0, 0⟩ :: pieces
    (firstFit firstWidth restWidth pieces).zipIdx.map fun (ws, i) =>
      if ws.isEmpty then ""
      else (if isFirst && i = 0 then first else rest) ++ String.ofList (lineText ws)

/-- Wrap a text into lines of `width` columns, the first after the indent `first` and the
others after `rest`; each line of the text is wrapped on its own. -/
def wrap (width : Nat) (first rest : String) (text : String) : List String :=
  (text.splitOn "\n").foldl (fun acc line =>
    acc ++ wrapLine width first rest acc.isEmpty line.toList) []

/-- The wrapped text as one string, its lines joined by line feeds.  A text shorter than the
width, with no line feed in it and no first indent, is only stripped of its trailing spaces. -/
def fill (width : Nat) (first rest : String) (text : String) : String :=
  if text.utf8ByteSize < width && !text.contains '\n' && first.isEmpty then
    String.ofList (trimEndSpaces text.toList)
  else String.intercalate "\n" (wrap width first rest text)

end Wrap

end EcmaRegex
