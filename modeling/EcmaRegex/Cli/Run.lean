import EcmaRegex.Cli.Args
import EcmaRegex.Cli.Report
import EcmaRegex.Config.File
import EcmaRegex.Lexer.Basic
/-!
# Running the command

`Cli.run` is the whole command as a function: from the arguments and the files of the working
directory to the exit code, what is written to standard output and standard error, and the
files afterwards.  The program's entry point only gathers these and writes the outcome back.

With `--init` the default config file `rsregex.json` is written, unless it exists.  Otherwise
the config file named by `-c` is read, the flags and options are settled (`-f` over the
config's flags, `--u180e-whitespace` forcing that option on), and each pattern is tokenized:
first those given as arguments, named `args[i]`, then those of the config file, named by its
path.  Token lists go to standard output.  Errors go to standard error, each drawn as a report
right away with `--pretty` and otherwise listed as one-line diagnostics at the end, followed
by their count.  The exit code is 0 when every pattern was read, 2 when one failed, and 1 when
the command could not start.

The command is built on libraries for reading its command line, for reading its config file and
for drawing reports, and on the Unicode library; `Cli.run` takes them as parameters (`Cli.Tools`
and `UnicodeLibrary`), so that what is said of a run holds whichever are used.
-/

namespace EcmaRegex

namespace Cli

/-- The libraries the command calls: the command-line parser, with the texts it prints for
`--help` and `--version`; the reader of config files, which gives the config a text holds or the
message of its error; and the renderer of graphical reports, which draws a title and a named
source with a labelled span. -/
structure Tools where
  readArgs : List String → Except Stop Settings
  helpText : String
  versionText : String
  parseConfig : String → Except String Config
  render : String → String → String → Report.Label → String

/-- What a run of the command leaves behind. -/
structure Outcome where
  exit : Nat
  stdout : String := ""
  stderr : String := ""
  files : List (String × String)
  deriving DecidableEq, Repr

/-- The name of the config file `--init` writes. -/
def configFileName : String := "rsregex.json"

/-- The config file `--init` writes. -/
def defaultConfig : String :=
  "\x7b\n  \"flags\": \"u\",\n  \"options\": \x7b\n    \"u180eWhitespace\": false\n  \x7d,\n" ++
  "  \"patterns\": []\n\x7d\n"

/-- A failed run that could not start, with the message after `error: `. -/
def failure (files : List (String × String)) (message : String) : Outcome :=
  ⟨1, "", "error: " ++ message ++ "\n", files⟩

/-- Write the default config file, unless one exists. -/
def runInit (files : List (String × String)) : Outcome :=
  if (files.lookup configFileName).isSome then
    failure files "An rsregex.json file already exists in the current directory."
  else
    ⟨0, "Successfully created an rsregex.json file.\n", "", files ++ [(configFileName, defaultConfig)]⟩

/-- Where a walk along a path has got to: a directory, the working directory or another one,
or a file with its contents. -/
inductive Place where
  | directory (working : Bool)
  | file (content : String)

/-- The system's message for a path through something that is not a directory. -/
def notADirectory : String := "Not a directory (os error 20)"

/-- The system's message for a path to nothing. -/
def noSuchFile : String := "No such file or directory (os error 2)"

/-- The system's message for reading a directory as a file. -/
def isADirectory : String := "Is a directory (os error 21)"

/-- The system's message for a path part longer than 255 bytes. -/
def nameTooLong : String := "File name too long (os error 36)"

/-- One step of a walk along a path, into the part `name`.  An empty part, left by a doubled
or trailing slash, and `.` stay where they are; `..` leaves the working directory for one
whose files are unknown. -/
def Place.enter (files : List (String × String)) : Place → String → Except String Place
  | .file _, _ => .error notADirectory
  | .directory working, name =>
    if name = "" || name = "." then .ok (.directory working)
    else if name = ".." then .ok (.directory false)
    else if name.utf8ByteSize > 255 then .error nameTooLong
    else
      match if working then files.lookup name else none with
      | some content => .ok (.file content)
      | none => .error noSuchFile

/-- The contents of a file, or the system's message for why it cannot be read.  The working
directory holds `files`, plain files only; a path is followed part by part from it, or from
the root when it starts with a slash. -/
def readFile (files : List (String × String)) (path : String) : Except String String :=
  match files.lookup path with
  | some content => .ok content
  | none =>
    if path.isEmpty then .error noSuchFile
    else
      let start := if path.startsWith "/" then Place.directory false else .directory true
      match (path.splitOn "/").foldlM (Place.enter files) start with
      | .error e => .error e
      | .ok (.directory _) => .error isADirectory
      | .ok (.file content) => .ok content

/-- The config file named on the command line, read and parsed. -/
def loadConfig (tools : Tools) (files : List (String × String)) (path : String) :
    Except String Config :=
  let lead := "Failed to read config file '" ++ path ++ "': "
  match readFile files path with
  | .error e => .error (lead ++ e)
  | .ok content =>
    match tools.parseConfig content with
    | .ok config => .ok config
    | .error message => .error (lead ++ message)

/-- The flags for every pattern: those of `-f`, else those of the config, else none. -/
def resolveFlags (settings : Settings) (config : Option Config) : Except String Flags :=
  match settings.flags with
  | some text =>
    match Flags.parse text with
    | .ok f => .ok f
    | .error e => .error ("Invalid flags '" ++ text ++ "': " ++ e.message)
  | none =>
    match config with
    | some c =>
      match c.regexFlags with
      | .ok f => .ok f
      | .error e => .error ("Invalid flags in config file: " ++ e.message)
    | none => .ok Flags.none

/-- A pattern to tokenize, with the name it is reported under. -/
structure Input where
  origin : String
  source : Source

/-- The patterns to tokenize: the arguments', then the config file's. -/
def inputs (settings : Settings) (config : Option Config) (flags : Flags) (options : Options) :
    List Input :=
  let configName := settings.config.getD configFileName
  let fromArgs := settings.patterns.zipIdx.map fun (p, i) => ("args[" ++ toString i ++ "]", p)
  let fromConfig := ((config.bind (·.patterns)).getD []).zipIdx.map fun (p, i) =>
    (configName ++ "[" ++ toString i ++ "]", p)
  (fromArgs ++ fromConfig).map fun (origin, p) => ⟨origin, (Source.ofString p flags).withOptions options⟩

/-- The output for a pattern read without error. -/
def tokenLines (input : Input) (tokens : List Token) (countOnly : Bool) : String :=
  let head := "/" ++ input.source.text ++ "/" ++ input.source.flags.text
  if countOnly then head ++ ": " ++ toString tokens.length ++ "\n"
  else head ++ "\n" ++ String.join (tokens.map fun t => "  " ++ t.display ++ "\n")

/-- The graphical report of a syntax error. -/
def prettyReport (tools : Tools) (e : SyntaxError) : String :=
  let snippet := "/" ++ e.pattern ++ "/" ++ e.flags.text
  let (start, stop) := e.byteRange
  tools.render ("RE" ++ toString e.code ++ ": " ++ e.text) "pattern" snippet
    ⟨start + 1, stop - start, "here"⟩

/-- The config file named on the command line, if any, read and parsed. -/
def readConfig (tools : Tools) (settings : Settings) (files : List (String × String)) :
    Except String (Option Config) :=
  match settings.config with
  | some path => (loadConfig tools files path).map some
  | none => .ok none

/-- Tokenize one input and add what it gives to the standard output, the standard error and
the diagnostics so far: its tokens, or else its report under `--pretty` and its diagnostic. -/
def reportInput (tools : Tools) (library : UnicodeLibrary) (settings : Settings)
    (acc : String × String × List Diagnostic) (input : Input) : String × String × List Diagnostic :=
  let (out, err, diags) := acc
  match tokenize library input.source with
  | .ok tokens => (out ++ tokenLines input tokens settings.count, err, diags)
  | .error e =>
    let err := if settings.pretty then err ++ prettyReport tools e else err
    (out, err, diags ++ [e.toDiagnostic input.origin])

/-- The outcome once every input is tokenized, from the two outputs and the diagnostics
gathered: exit code 0 when no input failed; otherwise exit code 2, with the diagnostics listed
on standard error, unless they were drawn as reports already, and their count. -/
def finish (settings : Settings) (files : List (String × String)) (stdout stderr : String)
    (diagnostics : List Diagnostic) : Outcome :=
  if diagnostics.isEmpty then ⟨0, stdout, stderr, files⟩
  else
    let listed := if settings.pretty then "" else String.join (diagnostics.map (·.line ++ "\n"))
    let n := diagnostics.length
    let summary := "\nFound " ++ toString n ++ " error" ++ (if n = 1 then "" else "s") ++ ".\n"
    ⟨2, stdout, stderr ++ listed ++ summary, files⟩

/-- Tokenize the patterns and report the outcome. -/
def runLex (tools : Tools) (library : UnicodeLibrary) (settings : Settings)
    (files : List (String × String)) : Outcome :=
  match readConfig tools settings files with
  | .error message => failure files message
  | .ok config =>
    match resolveFlags settings config with
    | .error message => failure files message
    | .ok flags =>
      let options := (config.bind (·.options)).getD {}
      let options :=
        if settings.u180eWhitespace then { options with u180eWhitespace := true } else options
      let inputs := inputs settings config flags options
      if inputs.isEmpty then failure files "No patterns given."
      else
        let (stdout, stderr, diagnostics) := inputs.foldl (reportInput tools library settings) ("", "", [])
        finish settings files stdout stderr diagnostics

/-- Run the command with the given arguments in a working directory holding `files`. -/
def run (tools : Tools) (library : UnicodeLibrary) (args : List String)
    (files : List (String × String)) : Outcome :=
  match tools.readArgs args with
  | .error .help => ⟨0, tools.helpText, "", files⟩
  | .error .version => ⟨0, tools.versionText, "", files⟩
  | .error (.usage text) => ⟨2, "", text, files⟩
  | .ok settings => if settings.init then runInit files else runLex tools library settings files

end Cli

end EcmaRegex
