/-!
# The command line

`rsre [OPTIONS] [PATTERN]...` takes patterns as positional arguments and these options:
`-f` or `--flags <FLAGS>`, `-c` or `--config <CONFIG>`, `--u180e-whitespace`, `--init`,
`--count`, `--pretty`, `-h` or `--help`, and `-V` or `--version`.

Arguments are read left to right.  `--` makes every later argument a pattern.  A long option
may carry its value after `=`; a short one may carry it directly after the letter, with an
optional `=`.  An option without an attached value takes the next argument that does not look
like an option; a lone `-` is a value.  A value is only checked when the option is finished,
which happens when the next option or `--` is met, at a pattern after the value, or at the
end; so an option given twice, or one left without a value, is reported then.

Help and version end the reading as soon as they are met.  Anything else that goes wrong
is reported as a usage error, in the fixed layout `error: …`, optional tips, an optional usage
line, and a pointer to `--help`.  An unknown long option gets the most similar known one as a
tip, by Jaro similarity above 0.7, and otherwise the tip to pass it after `--`.
-/

namespace EcmaRegex

namespace Cli

/-- The arguments the command knows, in the order its help lists them. -/
inductive Arg where
  | patterns
  | flags
  | config
  | u180eWhitespace
  | init
  | count
  | pretty
  | help
  | version
  deriving DecidableEq, Repr

namespace Arg

/-- The options, in the order the help lists them. -/
def options : List Arg := [flags, config, u180eWhitespace, init, count, pretty, help, version]

/-- The long name of an option. -/
def long : Arg → String
  | patterns => "PATTERN"
  | flags => "flags"
  | config => "config"
  | u180eWhitespace => "u180e-whitespace"
  | init => "init"
  | count => "count"
  | pretty => "pretty"
  | help => "help"
  | version => "version"

/-- The short name of an option, if it has one. -/
def short? : Arg → Option Char
  | flags => some 'f'
  | config => some 'c'
  | help => some 'h'
  | version => some 'V'
  | _ => none

/-- Whether the option takes a value. -/
def takesValue : Arg → Bool
  | flags | config => true
  | _ => false

/-- How the argument is written in messages; the patterns as required or optional. -/
def display (required : Bool) : Arg → String
  | patterns => if required then "<PATTERN>..." else "[PATTERN]..."
  | flags => "--flags <FLAGS>"
  | config => "--config <CONFIG>"
  | a => "--" ++ a.long

/-- The option with the given long name. -/
def ofLong? (name : String) : Option Arg := options.find? (·.long == name)

/-- The option with the given short name. -/
def ofShort? (c : Char) : Option Arg := options.find? (·.short? == some c)

end Arg

/-- What a command line asks for. -/
structure Settings where
  patterns : List String := []
  flags : Option String := none
  config : Option String := none
  u180eWhitespace : Bool := false
  init : Bool := false
  count : Bool := false
  pretty : Bool := false
  deriving DecidableEq, Repr, Inhabited

/-- How reading a command line ends when it does not give settings. -/
inductive Stop where
  | help
  | version
  /-- A usage error, with its full text. -/
  | usage (text : String)
  deriving DecidableEq, Repr

/-- The help text. -/
def helpText : String :=
  "rsre - An ECMAScript regular expression lexer\n\n" ++
  "Usage: rsre [OPTIONS] [PATTERN]...\n\n" ++
  "Arguments:\n" ++
  "  [PATTERN]...  Patterns to tokenize, without surrounding slashes\n\n" ++
  "Options:\n" ++
  "  -f, --flags <FLAGS>     Flag letters, e.g. `iu`. Overrides the config file\n" ++
  "  -c, --config <CONFIG>   Path to an rsregex.json config file\n" ++
  "      --u180e-whitespace  Treat U+180E as whitespace in `\\s` and `\\S`\n" ++
  "      --init              Create a default rsregex.json in the current directory\n" ++
  "      --count             Print only the number of tokens per pattern\n" ++
  "      --pretty            Render errors with source snippets, in color on a terminal\n" ++
  "  -h, --help              Print help\n" ++
  "  -V, --version           Print version\n"

/-- The version text. -/
def versionText : String := "rsre 0.1.0\n"

/-- The usage line when nothing is known about the arguments given. -/
def plainUsage : String := "Usage: rsre [OPTIONS] [PATTERN]..."

/-- The usage line naming the arguments given, in the order they were first given, and then
the patterns. -/
def usageWith (given : List Arg) : String :=
  if given.isEmpty then plainUsage
  else
    let opts := (given.filter (· != .patterns)).map (Arg.display true)
    let pats := Arg.display (given.contains .patterns) .patterns
    "Usage: rsre" ++ String.join ((opts ++ [pats]).map (" " ++ ·))

/-- A usage error's text: the message, tips, an optional usage line, and the pointer to the
help. -/
def usageError (message : String) (tips : List String) (usage : Option String) : String :=
  "error: " ++ message ++
  (if tips.isEmpty then "" else "\n" ++ String.join (tips.map ("\n  tip: " ++ ·))) ++
  (match usage with | some u => "\n\n" ++ u | none => "") ++
  "\n\nFor more information, try '--help'.\n"

/-- The Jaro similarity of two strings as a fraction: matching characters within half the
longer length of each other, less half the transpositions. -/
def jaro (a b : List Char) : Nat × Nat :=
  if a.isEmpty && b.isEmpty then (1, 1)
  else if a.isEmpty || b.isEmpty then (0, 1)
  else
    let range := max a.length b.length / 2 - 1
    -- Match each character of `a` with the first unmatched equal one of `b` in range.
    let (aFlags, bFlags) := (a.zipIdx).foldl (fun (af, bf) (x, i) =>
      let lo := i - range
      let hi := min b.length (i + range + 1)
      match ((b.zipIdx).drop lo |>.take (hi - lo)).find? (fun (y, j) => y == x && !bf[j]!) with
      | some (_, j) => (af.set! i true, bf.set! j true)
      | none => (af, bf)) (Array.replicate a.length false, Array.replicate b.length false)
    let aMatched := (a.zipIdx).filterMap fun (x, i) => if aFlags[i]! then some x else none
    let bMatched := (b.zipIdx).filterMap fun (y, j) => if bFlags[j]! then some y else none
    let m := aMatched.length
    if m = 0 then (0, 1)
    else
      let t := ((aMatched.zip bMatched).filter fun (x, y) => x != y).length / 2
      -- (m / |a| + m / |b| + (m - t) / m) / 3
      (m * b.length * m + m * a.length * m + (m - t) * a.length * b.length,
        3 * a.length * b.length * m)

/-- Whether the fraction `p` exceeds the fraction `q`. -/
def fracGt (p q : Nat × Nat) : Bool := p.1 * q.2 > q.1 * p.2

/-- The known long option most similar to `name`, if any is similar enough; among equally
similar ones the last in the help's order. -/
def suggestion (name : String) : Option Arg :=
  Arg.options.foldl (fun best a =>
    let s := jaro name.toList a.long.toList
    if fracGt s (7, 10) then
      match best with
      | some (_, bs) => if fracGt bs s then best else some (a, s)
      | none => some (a, s)
    else best) none |>.map (·.1)

/-- The state of reading a command line: the arguments given so far with their values, in
the order they were first given, and the argument whose values are still being collected. -/
structure ReadState where
  given : List (Arg × List String) := []
  pending : Option (Arg × List String) := none
  /-- Whether the pending option still waits for its value. -/
  awaiting : Bool := false
  /-- Whether `--` has been read. -/
  trailing : Bool := false

namespace ReadState

/-- The arguments given so far. -/
def givenArgs (s : ReadState) : List Arg := s.given.map (·.1)

/-- Record an argument with its values: help and version stop here; an option without a
value or given before is an error. -/
def accept (s : ReadState) (a : Arg) (values : List String) : Except Stop ReadState :=
  if a == .help then .error .help
  else if a == .version then .error .version
  else if a.takesValue && values.isEmpty then
    .error (.usage (usageError
      ("a value is required for '" ++ a.display false ++ "' but none was supplied") [] none))
  else if a == .patterns then
    match s.given.lookup a with
    | some old =>
      .ok { s with given := s.given.map fun (b, vs) => if b == a then (b, old ++ values) else (b, vs) }
    | none => .ok { s with given := s.given ++ [(a, values)] }
  else if s.givenArgs.contains a then
    .error (.usage (usageError
      ("the argument '" ++ a.display false ++ "' cannot be used multiple times")
      [] (some plainUsage)))
  else .ok { s with given := s.given ++ [(a, values)] }

/-- The state after an option given twice has been refused: it is no longer recorded. -/
def forget (s : ReadState) (a : Arg) : ReadState :=
  if a == .patterns then s else { s with given := s.given.filter (·.1 != a) }

/-- Finish the pending argument, if any. -/
def resolve (s : ReadState) : Except Stop ReadState :=
  match s.pending with
  | none => .ok s
  | some (a, values) => { s with pending := none, awaiting := false }.accept a values

/-- Finish the pending argument, ignoring what goes wrong, before another error is reported;
an option refused as given twice is dropped from the record. -/
def resolveQuietly (s : ReadState) : ReadState :=
  match s.pending with
  | none => s
  | some (a, values) =>
    let s' := { s with pending := none, awaiting := false }
    match s'.accept a values with
    | .ok s'' => s''
    | .error _ =>
      if a.takesValue && values.isEmpty then s' else s'.forget a

/-- Record an argument met on the command line: the pending one is finished first. -/
def react (s : ReadState) (a : Arg) (values : List String) : Except Stop ReadState := do
  let s ← s.resolve
  s.accept a values

/-- Start an option whose value comes in the next argument. -/
def expect (s : ReadState) (a : Arg) : Except Stop ReadState := do
  let s ← s.resolve
  pure { s with pending := some (a, []), awaiting := true }

/-- Add a pattern. -/
def pattern (s : ReadState) (value : String) : Except Stop ReadState := do
  match s.pending with
  | some (.patterns, values) => pure { s with pending := some (.patterns, values ++ [value]) }
  | _ =>
    let s ← s.resolve
    pure { s with pending := some (.patterns, [value]) }

/-- The error for an unknown long option. -/
def unknownLong (s : ReadState) (name : String) : Stop :=
  let s := s.resolveQuietly
  let shown := "--" ++ name
  match suggestion name with
  | some a =>
    let given := if s.givenArgs.contains a then s.givenArgs else s.givenArgs ++ [a]
    .usage (usageError ("unexpected argument '" ++ shown ++ "' found")
      ["a similar argument exists: '--" ++ a.long ++ "'"] (some (usageWith given)))
  | none =>
    .usage (usageError ("unexpected argument '" ++ shown ++ "' found")
      ["to pass '" ++ shown ++ "' as a value, use '-- " ++ shown ++ "'"]
      (some (usageWith s.givenArgs)))

/-- The error for an unknown short option. -/
def unknownShort (c : Char) : Stop :=
  let shown := "-" ++ c.toString
  .usage (usageError ("unexpected argument '" ++ shown ++ "' found")
    ["to pass '" ++ shown ++ "' as a value, use '-- " ++ shown ++ "'"] (some plainUsage))

/-- Read a cluster of short options, the characters after the `-`. -/
def shorts (s : ReadState) : List Char → Except Stop ReadState
  | [] => .ok s
  | c :: rest =>
    match Arg.ofShort? c with
    | none => .error (unknownShort c)
    | some a =>
      if !a.takesValue then do
        let s ← s.react a []
        shorts s rest
      else if rest.isEmpty then s.expect a
      else
        let value := match rest with
          | '=' :: v => String.ofList v
          | v => String.ofList v
        s.react a [value]

/-- Read one argument. -/
def step (s : ReadState) (arg : String) : Except Stop ReadState :=
  if s.trailing then s.pattern arg
  else if arg == "--" then do
    let s ← s.resolve
    pure { s with trailing := true }
  else if arg.startsWith "--" then
    let body := (arg.drop 2).toString
    let name := (body.takeWhile (· != '=')).toString
    let value : Option String :=
      if body.contains '=' then some ((body.dropWhile (· != '=')).drop 1).toString else none
    match Arg.ofLong? name with
    | none => .error (s.unknownLong name)
    | some a =>
      if a.takesValue then
        match value with
        | some v => s.react a [v]
        | none => s.expect a
      else
        match value with
        | some v =>
          let given := if s.givenArgs.contains a then s.givenArgs else s.givenArgs ++ [a]
          .error (.usage (usageError
            ("unexpected value '" ++ v ++ "' for '" ++ a.display false ++
              "' found; no more were expected") [] (some (usageWith given))))
        | none => s.react a []
  else if arg.startsWith "-" && arg.length > 1 then s.shorts (arg.toList.drop 1)
  else if s.awaiting then
    match s.pending with
    | some (a, _) => .ok { s with pending := some (a, [arg]), awaiting := false }
    | none => s.pattern arg
  else s.pattern arg

end ReadState

/-- The settings a state records. -/
def ReadState.settings (s : ReadState) : Settings :=
  let values := fun (a : Arg) => s.given.lookup a
  { patterns := (values .patterns).getD []
    flags := (values .flags).bind (·.head?)
    config := (values .config).bind (·.head?)
    u180eWhitespace := (values .u180eWhitespace).isSome
    init := (values .init).isSome
    count := (values .count).isSome
    pretty := (values .pretty).isSome }

/-- Read a command line, the program's name left out. -/
def readArgs (args : List String) : Except Stop Settings := do
  let s ← args.foldlM ReadState.step {}
  let s ← s.resolve
  pure s.settings

end Cli

end EcmaRegex
