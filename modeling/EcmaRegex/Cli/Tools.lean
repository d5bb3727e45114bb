import EcmaRegex.Cli.Run
/-!
# The libraries the command runs with

The program's command line is read by its argument parser (`Cli.readArgs`), its config file by
its JSON reader (`Config.parse`), whose errors are written with their line and column, and its
reports are drawn by `Report.render`.
-/

namespace EcmaRegex

namespace Cli

/-- The libraries of the program. -/
def tools : Tools where
  readArgs := readArgs
  helpText := helpText
  versionText := versionText
  parseConfig text :=
    match Config.parse text with
    | .ok config => .ok config
    | .error e => .error (e.render text)
  render := Report.render

end Cli

end EcmaRegex
