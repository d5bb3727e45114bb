import EcmaRegex.Cli.Tools
import EcmaRegex.Unicode.Tables
/-!
# The `rsre` program

The entry point gathers what `Cli.run` needs from the system, the arguments and the files it
may read, runs it with the program's libraries, and writes back its output, the files it created
and its exit code.
-/

open EcmaRegex

/-- Read the files the command may look at, leaving out those that cannot be read. -/
def gatherFiles (paths : List String) : IO (List (String × String)) := do
  let mut found := []
  for path in paths do
    try
      let content ← IO.FS.readFile path
      found := found ++ [(path, content)]
    catch _ =>
      pure ()
  pure found

/-- Run the command on the process's arguments. -/
def main (args : List String) : IO UInt32 := do
  let configPaths := match Cli.tools.readArgs args with
    | .ok settings => settings.config.toList
    | .error _ => []
  let before ← gatherFiles (Cli.configFileName :: configPaths)
  let outcome := Cli.run Cli.tools Unicode.tables args before
  IO.print outcome.stdout
  IO.eprint outcome.stderr
  for (name, content) in outcome.files do
    if (before.lookup name).isNone then
      IO.FS.writeFile name content
  pure outcome.exit.toUInt32
