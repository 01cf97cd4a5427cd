import LineShell.Options
import LineShell.System
import LineShell.Text.Blank

/-!
Why a command fails.
-/

namespace LineShell

inductive CommandError where
  /-- An assignment without exactly a name and a value. -/
  | assignmentShape
  /-- Arguments that do not fit the command. -/
  | arguments (error : Options.Error)
  /-- Neither a file nor an input. -/
  | noInput (command : String)
  /-- A file that cannot be read or is no text. -/
  | unreadable (command file : String)
  | invalidPattern (pattern : String)
  /-- The working directory is gone. -/
  | noDirectory
  | notFound (program : String)
  | notStarted (program : String)
  /-- A program whose end could not be waited for. -/
  | notAwaited (program : String)
  /-- A program whose input could not be written. -/
  | inputFailed (program : String)
  /-- A program for which the thread that writes its input broke down. -/
  | inputBroken (program : String)
  /-- A program that ended, but not with status 0. -/
  | failed (program : String) (status : ExitStatus)
  /-- A fault in the command itself, which ends the shell. -/
  | fault (fault : Fault)
  deriving DecidableEq, Repr

namespace CommandError

/-- Whether the fault lies in the arguments that the command was given. -/
def isArgument : CommandError → Bool
  | .assignmentShape | .arguments _ | .noInput _ => true
  | _ => false

def message : CommandError → String
  | .assignmentShape => "assignment expects a variable name and a value"
  | .arguments error => Text.trimEnd error.message
  | .noInput command => command ++ ": expected a file name or piped input"
  | .unreadable command file => command ++ ": " ++ file
  | .invalidPattern pattern => "grep: invalid pattern: " ++ pattern
  | .noDirectory => "pwd: can't read current directory"
  | .notFound program => "command not found: " ++ program
  | .notStarted program => program ++ ": failed to start"
  | .notAwaited program => program ++ ": failed to wait"
  | .inputFailed program => program ++ ": failed to write input"
  | .inputBroken program => program ++ ": input writer panicked"
  | .failed program status => program ++ ": " ++ status.message
  | .fault f => f.message

end CommandError

end LineShell
