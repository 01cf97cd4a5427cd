import LineShell.Session

/-!
The log: what the shell tells of its work on the error stream, if it is asked for details.

A log line has a time and a level on it, and shows its data in a form of its own. Only the data are
kept here, so log lines stand apart from what else is written to the error stream. What libraries
log is left out.
-/

namespace LineShell

inductive LogLine where
  /-- The lines ended inside a quote, and the command is dropped. -/
  | dropped
  /-- The words of a command. -/
  | words (words : List String)
  | pipeline (stages : Pipeline)
  /-- The path at which the program of a stage was found. -/
  | resolved (name path : String)
  /-- The lines that were entered for a command, and why it failed. -/
  | failed (entered : String) (error : ShellError)
  deriving DecidableEq, Repr

variable {σ : Type} [System σ]

/-- What a stage logs. -/
def Command.log (c : Command) (world : σ) : List LogLine :=
  match c.kind with
  | .external name => ((programPath? world name).map (.resolved name)).toList
  | _ => []

/-- What stages log that run one after the other, up to the first that fails. -/
def logStages (input : Option String) (world : σ) : Pipeline → List LogLine
  | [] => []
  | c :: rest =>
    let done := c.run input .empty world
    c.log world ++
      match done.result with
      | .error _ => []
      | .ok text => logStages (some text) done.world rest

/-- What evaluating a logical command logs. -/
def Session.log (s : Session σ) (line : String) (more : List String) : List LogLine :=
  match (gather s.scope line more).words with
  | .error _ => []
  | .ok none => [.dropped]
  | .ok (some words) =>
    .words words ::
      match Pipeline.ofWords words with
      | .error _ => []
      | .ok stages => .pipeline stages :: logStages none s.world stages

/-- The warning that a command failed. -/
def Step.warning (step : Step σ) (entered : List String) : List LogLine :=
  match step.result with
  | .error e => if e.fault?.isSome then [] else [.failed (Text.unlines entered) e]
  | .ok _ => []

end LineShell
