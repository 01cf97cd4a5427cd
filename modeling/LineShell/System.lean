import LineShell.Fault

/-!
What a shell asks of what is around it: of the system a working directory, a file tree and programs,
and of what it is built with a library for patterns and the arithmetic of its machine. The shell is
written for any of these. The state of the system is passed on from one program to the next.
-/

namespace LineShell

/-- What a shell is built with. -/
structure Build where
  overflow : Overflow
  /-- The lines that a pattern matches, unless the library refuses it. If the flag is set, case
  makes no difference. -/
  compile : Bool → String → Option (String → Bool)
  /-- What the error stream gets to read of a fault with this message. -/
  report : String → List UInt8

/-- How a program ended. -/
inductive ExitStatus where
  | exited (code : Nat)
  /-- A signal ended it, and it left an image of its memory if `dumped` holds. -/
  | signaled (signal : Nat) (dumped : Bool)
  deriving DecidableEq, Repr

namespace ExitStatus

/-- The signals from 1 on. -/
def signalNames : List String :=
  ["SIGHUP", "SIGINT", "SIGQUIT", "SIGILL", "SIGTRAP", "SIGABRT", "SIGBUS", "SIGFPE", "SIGKILL",
   "SIGUSR1", "SIGSEGV", "SIGUSR2", "SIGPIPE", "SIGALRM", "SIGTERM", "SIGSTKFLT", "SIGCHLD",
   "SIGCONT", "SIGSTOP", "SIGTSTP", "SIGTTIN", "SIGTTOU", "SIGURG", "SIGXCPU", "SIGXFSZ",
   "SIGVTALRM", "SIGPROF", "SIGWINCH", "SIGIO", "SIGPWR", "SIGSYS"]

def signalName? : Nat → Option String
  | 0 => none
  | n + 1 => signalNames[n]?

def message : ExitStatus → String
  | exited code => "exit status: " ++ toString code
  | signaled signal dumped =>
    let name := match signalName? signal with
      | some name => " (" ++ name ++ ")"
      | none => ""
    "signal: " ++ toString signal ++ name ++ if dumped then " (core dumped)" else ""

end ExitStatus

/-- What became of the input of a program. -/
inductive Delivery where
  | complete
  /-- The program did not read all of it. -/
  | refused
  /-- Writing it failed for another reason. -/
  | failed
  /-- The thread that writes it broke down. -/
  | broken
  deriving DecidableEq, Repr

/-- What a program left behind that ran to its end. -/
structure Finished where
  output : List UInt8
  /-- What it wrote to its error stream. -/
  errors : List UInt8
  status : ExitStatus
  delivery : Delivery := .complete
  deriving DecidableEq, Repr

/-- What running a program leads to. -/
inductive Execution (σ : Type) where
  | notStarted
  /-- The program was started, but waiting for its end failed. -/
  | lost (errors : List UInt8) (world : σ)
  | ended (finished : Finished) (world : σ)
  deriving DecidableEq, Repr

/-- The services of a system with states `σ`. Paths are given as they were written. -/
class System (σ : Type) where
  build : Build
  /-- The path of the working directory, unless that directory is gone. -/
  workingDirectory : σ → Option String
  /-- The directories that are searched for programs, with colons between them. -/
  searchPath : σ → String
  /-- Whether there is anything at a path. -/
  pathExists : σ → String → Bool
  /-- Whether there is a regular file at a path. -/
  isFile : σ → String → Bool
  /-- The content of the file at a path, if it can be read. -/
  readFile : σ → String → Option (List UInt8)
  /-- Runs the program at a path on arguments and an input. -/
  execute : σ → String → List String → List UInt8 → Execution σ

end LineShell
