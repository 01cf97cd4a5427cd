import LineShell.Options

/-!
The settings of a shell and the arguments that change them.
-/

namespace LineShell

/-- The settings of a shell. -/
structure Config where
  /-- Shown before each new command. -/
  prompt : String := "my-cli$ "
  /-- Shown while a quote is open. -/
  continuationPrompt : String := "> "
  /-- A single command line to run instead of reading commands. -/
  command : Option String := none
  /-- Whether details are logged. -/
  verbose : Bool := false
  deriving DecidableEq, Repr

namespace Config

open Options

/-- The arguments of the shell. -/
def interface : Interface Config where
  name := "my-cli"
  about := "A small line-oriented shell with quoting, variables and pipes."
  flags := [
    { long := "prompt"
      about := "prompt shown before each new command"
      effect := .value fun text c => .ok { c with prompt := text } },
    { long := "continuation-prompt"
      about := "prompt shown while a quote is still open"
      effect := .value fun text c => .ok { c with continuationPrompt := text } },
    { long := "command"
      short := some 'c'
      about := "run a single command line and exit"
      effect := .value fun text c => .ok { c with command := some text } },
    { long := "verbose"
      short := some 'v'
      about := "log debug information to stderr"
      effect := .switch fun c => { c with verbose := true } }]

/-- Reads the arguments of the shell. -/
def ofArgs (args : List String) : Except Options.Error (Request Config) :=
  interface.read {} args

end Config

end LineShell
