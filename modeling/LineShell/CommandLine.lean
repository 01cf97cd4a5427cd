import LineShell.Options.Usage
import LineShell.Repl

/-!
The shell as a program: what it does with its arguments and its input.

What it does not do with them here is left out: it shows and edits no line of a terminal and keeps
no history of them, it takes no filter for log lines from its environment, and its own writing to
the two streams does not fail.
-/

namespace LineShell

variable {σ : Type} [System σ]

/-- What a run of the program leaves behind. -/
structure ProgramRun (σ : Type) where
  status : Nat
  output : String
  /-- The error stream without its log lines. -/
  errors : List UInt8
  /-- The log lines of the error stream. -/
  log : List LogLine := []
  session : Session σ

namespace CommandLine

/-- The report of arguments that are refused. -/
def refusal (e : Options.Error) : String :=
  e.message ++ "\nRun " ++ Config.interface.name ++ " --help for more information.\n"

/-- The report of an input that is no text. -/
def brokenInput : String :=
  let reason := "stream did not contain valid UTF-8"
  "Error: " ++ reason ++ "\n\nCaused by:\n    " ++ reason ++ "\n"

/-- The status of a program that a fault ended. -/
def faultStatus : Nat := 101

/-- The status with which a run over an input ends. -/
def status : Repl.Stop → Nat
  | .finished => 0
  | .broken => 1
  | .fault _ => faultStatus

/-- What is written to the error stream at the end of a run. -/
def report (build : Build) : Repl.Stop → List UInt8
  | .finished => []
  | .broken => Text.Utf8.encode brokenInput
  | .fault fault => build.report fault.message

/-- The log lines that are written: none unless the settings ask for them. -/
def logged (config : Config) (log : List LogLine) : List LogLine :=
  if config.verbose then log else []

/-- Runs a single command line, without further lines. -/
def runLine (config : Config) (session : Session σ) (line : String) : ProgramRun σ :=
  let step := session.eval line []
  let stop : Repl.Stop := step.fault?.elim .finished .fault
  { status := match step.result, stop with
      | .error _, .finished => 1
      | _, stop => status stop
    output := step.events.output false
    errors := step.events.errors ++ report (System.build σ) stop
    log := logged config (session.log line [])
    session := step.session }

/-- Runs the commands of an input. -/
def runInput (config : Config) (prompts : Bool) (session : Session σ) (input : Input) :
    ProgramRun σ :=
  let ending := Repl.run config input.isBroken session input.lines
  { status := status ending.stop
    output := ending.events.output prompts
    errors := ending.events.errors ++ report (System.build σ) ending.stop
    log := logged config ending.log
    session := ending.session }

/-- Runs the program on its arguments and the bytes of its input. Prompts are shown if `prompts`
holds. -/
def run (world : σ) (prompts : Bool) (args : List String) (input : List UInt8) : ProgramRun σ :=
  let session : Session σ := { world }
  match Config.ofArgs args with
  | .error e =>
    { status := 1, output := "", errors := Text.Utf8.encode (refusal e), session }
  | .ok .help => { status := 0, output := Config.interface.usage ++ "\n", errors := [], session }
  | .ok (.settings config) =>
    match config.command with
    | some line => runLine config session line
    | none => runInput config prompts session (.ofBytes input)

end CommandLine

end LineShell
