import LineShell.Failure
import LineShell.Options.Usage
import LineShell.System
import LineShell.Text.Utf8

/-!
What the built-in commands share: they read their arguments against an interface, and take their
text from a file or from the stage before them.
-/

namespace LineShell.Builtin

variable {σ : Type} [System σ]

/-- The text of a file. -/
def readText (world : σ) (file : String) : Option String :=
  (System.readFile world file).bind Text.Utf8.decode?

/-- The text of the file if one is named, and the input otherwise. -/
def source (command : String) (world : σ) (file input : Option String) :
    Except CommandError String :=
  match file, input with
  | some file, _ =>
    match readText world file with
    | some text => .ok text
    | none => .error (.unreadable command file)
  | none, some text => .ok text
  | none, none => .error (.noInput command)

/-- Runs a command on its arguments. A request for help is answered with the usage text. -/
def run {α : Type} (interface : Options.Interface α) (defaults : α) (args : List String)
    (execute : α → Except CommandError String) : Except CommandError String :=
  match interface.read defaults args with
  | .error e => .error (.arguments e)
  | .ok .help => .ok (Text.trimEnd interface.usage)
  | .ok (.settings settings) => execute settings

end LineShell.Builtin
