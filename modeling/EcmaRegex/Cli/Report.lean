import EcmaRegex.Text.Wrap
/-!
# Graphical error reports

A syntax error can be shown as a report drawn with box-drawing characters: a title line
`  × RE1561: Quantifier on quantifier.`, then the source with its line numbers, the line the
error is on and one line of context around it, and under the error's span an underline with a
label.  The source here is `/pattern/flags`, named `pattern`, and the label is `here`:

```
  × RE1561: Quantifier on quantifier.
   ╭─[pattern:1:4]
 1 │ /a**/
   ·    ┬
   ·    ╰── here
   ╰────
```

Positions are byte offsets into the source; the header gives the line and the byte column of
the span's start.  Columns on screen are display widths as of Unicode 15.1: wide characters take
two columns, tabs run to the next multiple of four, and an escape sequence `ESC … m` takes none.

The title is wrapped at 198 columns by `Wrap.fill`.  A span that covers more than one line is
drawn with a gutter between the line numbers and the text, which runs from the span's first
line to its last and ends in the label.
-/

namespace EcmaRegex

namespace Report

/-- A line of the source shown in a report: its number from one, the byte offset where it
starts, its length in bytes with its line break, and its text without the break. -/
structure SourceLine where
  number : Nat
  offset : Nat
  length : Nat
  text : String
  deriving Repr

/-- A labelled span of the source. -/
structure Label where
  offset : Nat
  length : Nat
  text : String
  deriving Repr

/-- The part of a source a span and its context lines take: from the byte offset `start` to
`stop`, starting on line `line` (from zero) at byte column `column`. -/
structure Excerpt where
  start : Nat
  stop : Nat
  line : Nat
  column : Nat
  deriving Repr

/-- The state of scanning a source for an excerpt. -/
structure ScanState where
  offset : Nat := 0
  startLine : Nat := 0
  startColumn : Nat := 0
  lineStarts : List Nat := []
  currentLineStart : Nat := 0
  endLines : Nat := 0
  postSpan : Bool := false
  postSpanNewline : Bool := false
  /-- Whether the next byte is the line feed of a carriage return and line feed, already
  counted. -/
  skipLineFeed : Bool := false

/-- Scan the bytes of a source for the excerpt around the span at `spanOffset` of length
`spanLength`, with `before` lines of context before it and `after` after it.  `none` when
the span runs past the end of the source. -/
def excerptFrom (spanOffset spanLength before after : Nat) (s : ScanState) :
    List UInt8 → ScanState × Bool
  | [] => (s, false)
  | b :: rest =>
    if s.skipLineFeed then
      excerptFrom spanOffset spanLength before after { s with skipLineFeed := false } rest
    else
    let isBreak := b == 13 || b == 10
    let s := if b == 13 && rest.head? == some 10 then
        { s with offset := s.offset + 1, skipLineFeed := true }
      else s
    let lastByte := spanOffset + (spanLength - 1)
    let (s, stop) :=
      if isBreak then
        let (s, stop) :=
          if s.offset < spanOffset then
            let starts := s.lineStarts ++ [s.currentLineStart]
            if starts.length > before then
              ({ s with
                  startColumn := 0, startLine := s.startLine + 1, lineStarts := starts.drop 1 },
                false)
            else ({ s with startColumn := 0, lineStarts := starts }, false)
          else if s.offset ≥ lastByte && s.postSpan then
            let s := { s with startColumn := 0 }
            let s := if s.postSpanNewline then { s with endLines := s.endLines + 1 }
              else { s with postSpanNewline := true }
            (s, s.endLines ≥ after)
          else (s, false)
        ({ s with currentLineStart := s.offset + 1 }, stop)
      else if s.offset < spanOffset then ({ s with startColumn := s.startColumn + 1 }, false)
      else (s, false)
    if stop then ({ s with offset := s.offset + 1 }, true)
    else
      let s := if s.offset ≥ spanOffset + spanLength - 1 then { s with postSpan := true } else s
      if s.postSpan && s.offset ≥ spanOffset + spanLength - 1 && s.endLines ≥ after then
        ({ s with offset := s.offset + 1 }, true)
      else excerptFrom spanOffset spanLength before after { s with offset := s.offset + 1 } rest

/-- The excerpt of a source around a span, with `before` and `after` lines of context. -/
def excerpt (source : String) (spanOffset spanLength before after : Nat) : Option Excerpt :=
  let (s, _) := excerptFrom spanOffset spanLength before after {} source.toUTF8.toList
  if s.offset ≥ spanOffset + spanLength - 1 then
    let start := s.lineStarts.head?.getD (if before = 0 then spanOffset else 0)
    some ⟨start, s.offset, s.startLine, if before = 0 then s.startColumn else 0⟩
  else none

/-- The bytes of a text from `start` to `stop`, as text. -/
def slice (source : String) (start stop : Nat) : String :=
  String.fromUTF8! (ByteArray.mk ((source.toUTF8.toList.drop start).take (stop - start)).toArray)

/-- The state of splitting an excerpt into lines. -/
structure LineState where
  line : Nat
  offset : Nat
  lineOffset : Nat
  column : Nat := 0
  text : List Char := []
  lines : Array SourceLine := #[]
  /-- Whether the next character is the line feed of a carriage return and line feed, already
  counted. -/
  skipLineFeed : Bool := false

/-- Split the characters of an excerpt into lines. -/
def linesFrom (s : LineState) : List Char → Array SourceLine
  | [] => s.lines
  | c :: rest =>
    if s.skipLineFeed then linesFrom { s with skipLineFeed := false } rest
    else
    let s := { s with offset := s.offset + c.utf8Size }
    -- What follows the character, a line feed after a carriage return left out.
    let after := if c = '\r' && rest.head? = some '\n' then rest.drop 1 else rest
    let (s, atEnd) :=
      if c = '\r' then
        if rest.head? = some '\n' then
          ({ s with offset := s.offset + 1, line := s.line + 1, column := 0, skipLineFeed := true },
            after.isEmpty)
        else ({ s with text := s.text ++ [c], column := s.column + 1 }, after.isEmpty)
      else if c = '\n' then ({ s with line := s.line + 1, column := 0 }, after.isEmpty)
      else ({ s with text := s.text ++ [c], column := s.column + 1 }, false)
    let s := if after.isEmpty && !atEnd then { s with line := s.line + 1 } else s
    let s :=
      if s.column = 0 || after.isEmpty then
        { s with
          lines :=
            s.lines.push ⟨s.line, s.lineOffset, s.offset - s.lineOffset, String.ofList s.text⟩
          text := []
          lineOffset := s.offset }
      else s
    linesFrom s rest

/-- The lines of the excerpt around a span, with one line of context each side. -/
def sourceLines (source : String) (spanOffset spanLength : Nat) : Option (List SourceLine) := do
  let e ← excerpt source spanOffset spanLength 1 1
  let text := slice source e.start e.stop
  pure (linesFrom { line := e.line, offset := e.start, lineOffset := e.start } text.toList).toList

/-- The display widths of the characters of a text: tabs to the next multiple of four, an
escape sequence up to its `m` nothing. -/
def charWidths (text : List Char) : List Nat :=
  let step := fun (state : Nat × Bool) (c : Char) =>
    let (column, escaped) := state
    let (width, escaped) :=
      if !escaped && c = '\t' then (4 - column % 4, false)
      else if !escaped && c = '\x1b' then (0, true)
      else if !escaped then (Unicode.WidthTable.unicode15.width c, false)
      else if c = 'm' then (0, false)
      else (0, true)
    (width, (column + width, escaped))
  (text.foldl (fun (acc : List Nat × (Nat × Bool)) c =>
    let (w, st) := step acc.2 c
    (acc.1 ++ [w], st)) ([], (0, false))).1

/-- The display width of a text. -/
def visualWidth (text : List Char) : Nat := (charWidths text).foldl (· + ·) 0

/-- The screen column of a byte offset on a line: a character it falls inside counts from
its first column when `start` is set, else from after it; past the end of the text, one
column past it. -/
def visualOffset (line : SourceLine) (offset : Nat) (start : Bool) : Nat :=
  let bytes := line.text.toUTF8.size
  let index := offset - line.offset
  -- Character boundaries of the text, in bytes.
  let bounds := line.text.toList.foldl
    (fun (acc : List Nat) c => acc ++ [acc.getLast! + c.utf8Size]) [0]
  let index :=
    if index > bytes then index
    else if bounds.contains index then index
    else if start then (bounds.filter (· ≤ index)).getLast!
    else (bounds.filter (· ≥ index)).head!
  let prefixChars := (bounds.zip (line.text.toList)).filter (fun (b, _) => b < min index bytes)
  let width := visualWidth (prefixChars.map (·.2))
  if index > bytes then width + 1 else width

/-- The text of a line with its tabs expanded. -/
def lineText (line : SourceLine) : String :=
  String.join ((line.text.toList.zip (charWidths line.text.toList)).map fun (c, w) =>
    if c = '\t' then String.ofList (List.replicate w ' ') else c.toString)

/-- Whether the span lies within the line. -/
def Label.onlyOn (l : Label) (line : SourceLine) : Bool :=
  l.offset ≥ line.offset && l.offset + l.length ≤ line.offset + line.length

/-- Whether the span shows on the line. -/
def Label.appliesTo (l : Label) (line : SourceLine) : Bool :=
  let len := if l.length = 0 then 1 else l.length
  (l.offset ≥ line.offset && l.offset < line.offset + line.length) ||
  (l.offset < line.offset && l.offset + len > line.offset + line.length) ||
  (l.offset + len > line.offset && l.offset + len ≤ line.offset + line.length)

/-- Whether the span shows in the gutter of the line: it shows there but does not both start
and end on it. -/
def Label.inGutter (l : Label) (line : SourceLine) : Bool :=
  let len := if l.length = 0 then 1 else l.length
  l.appliesTo line &&
    !((l.offset ≥ line.offset && l.offset < line.offset + line.length) &&
      (l.offset + len > line.offset && l.offset + len ≤ line.offset + line.length))

/-- Whether the span passes the line without starting or ending on it. -/
def Label.passes (l : Label) (line : SourceLine) : Bool :=
  l.offset < line.offset && l.offset + l.length > line.offset + line.length

/-- Whether the span starts on the line, given that it shows there. -/
def Label.startsOn (l : Label) (line : SourceLine) : Bool := l.offset ≥ line.offset

/-- Whether the span ends on the line, given that it shows there. -/
def Label.endsOn (l : Label) (line : SourceLine) : Bool :=
  l.offset + l.length ≥ line.offset && l.offset + l.length ≤ line.offset + line.length

/-- A run of a character. -/
def rep (n : Nat) (s : String) : String := String.join (List.replicate n s)

/-- The gutter on a source line. -/
def lineGutter (maxGutter : Nat) (line : SourceLine) (labels : List Label) : String :=
  if maxGutter = 0 then ""
  else
    let applicable := labels.filter (·.inGutter line)
    let (gutter, arrow, _) := applicable.zipIdx.foldl (fun (acc : String × Bool × Bool) (l, i) =>
      let (g, arrow, done) := acc
      if done then acc
      else if l.startsOn line then (g ++ "╭" ++ rep (maxGutter - i) "─" ++ "▶", true, true)
      else if l.endsOn line then (g ++ "├" ++ rep (maxGutter - i) "─" ++ "▶", true, true)
      else if l.passes line then (g ++ "│", arrow, false)
      else (g ++ " ", arrow, false)) ("", false, false)
    gutter ++ rep ((if arrow then 1 else 3) + (maxGutter - gutter.length)) " "

/-- The gutter on a line under a source line. -/
def highlightGutter (maxGutter : Nat) (line : SourceLine) (labels : List Label) : String :=
  if maxGutter = 0 then ""
  else
    let applicable := labels.filter (·.inGutter line)
    let (gutter, cols, _) := applicable.zipIdx.foldl (fun (acc : String × Nat × Bool) (l, i) =>
      let (g, cols, done) := acc
      if done then acc
      else if !l.onlyOn line && l.endsOn line then
        let n := maxGutter - i + 2
        (g ++ "╰" ++ rep n "─", cols + n + 1, true)
      else (g ++ "│", cols + 1, false)) ("", 0, false)
    gutter ++ rep ((maxGutter + 3) - cols) " "

/-- The start of a line without a line number. -/
def noNumber (width : Nat) : String := " " ++ rep width " " ++ " · "

/-- The underline and label lines under a source line for the spans within it. -/
def singleLineHighlights (line : SourceLine) (width maxGutter : Nat) (single all : List Label) :
    List String :=
  let (underline, offsets, _) := single.foldl (fun (acc : String × List Nat × Nat) l =>
    let (u, offs, highest) := acc
    let start := max (visualOffset line l.offset true) highest
    let stop := if l.length = 0 then start + 1
      else max (visualOffset line (l.offset + l.length) false) (start + 1)
    let bar := (start + stop) / 2
    let mark := if l.length = 0 then "▲" else "┬"
    (u ++ rep (start - highest) " " ++ rep (bar - start) "─" ++ mark ++
        rep (stop - bar - 1) "─",
      offs ++ [bar], max highest stop)) ("", [], 0)
  let first := noNumber width ++ highlightGutter maxGutter line all ++ underline
  let labelLines := (single.zip offsets).reverse.map fun (l, bar) =>
    noNumber width ++ highlightGutter maxGutter line all ++ rep bar " " ++ "╰── " ++ l.text
  first :: labelLines

/-- The report's snippet: the header, the source lines with their highlights, and the
closing line. -/
def snippet (name source : String) (label : Label) : Option String := do
  let lines ← sourceLines source label.offset label.length
  let primary ← excerpt source label.offset label.length 0 0
  let labels := [label]
  let maxGutter := lines.foldl (fun m line =>
    max m (labels.filter (fun l => !l.onlyOn line && l.inGutter line)).length) 0
  let width := (toString ((lines.getLast?.map (·.number)).getD 0)).length
  let header := rep (width + 2) " " ++ "╭─" ++ "[" ++ name ++ ":" ++
    toString (primary.line + 1) ++
    ":" ++ toString (primary.column + 1) ++ "]"
  let body := lines.flatMap fun line =>
    let numbered := " " ++ rep (width - (toString line.number).length) " " ++
      toString line.number ++
      " │ " ++ lineGutter maxGutter line labels ++ lineText line
    let applicable := labels.filter (·.appliesTo line)
    let single := applicable.filter (·.onlyOn line)
    let multi := applicable.filter (fun l => !l.onlyOn line)
    let highlights :=
      if single.isEmpty then [] else singleLineHighlights line width maxGutter single labels
    let ends := (multi.filter fun l => l.endsOn line && !l.startsOn line).map fun l =>
      noNumber width ++ highlightGutter maxGutter line labels ++ "─ " ++ l.text
    numbered :: highlights ++ ends
  let footer := rep (width + 2) " " ++ "╰" ++ rep 4 "─"
  pure (String.join ((header :: body ++ [footer]).map (· ++ "\n")))

/-- The report of an error with the given title in `source`, named `name`, with one
labelled span. -/
def render (title name source : String) (label : Label) : String :=
  let head := Wrap.fill 198 "  × " "  │ " title ++ "\n"
  match snippet name source label with
  | some s => head ++ s
  | none =>
    head ++ "  [Failed to read contents for label `" ++ label.text ++ "` (offset: " ++
      toString label.offset ++ ", length: " ++ toString label.length ++ "): OutOfBounds]\n"

end Report

end EcmaRegex
