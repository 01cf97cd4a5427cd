import LineShell.Config
import LineShell.Log
import LineShell.Text.Lines
import LineShell.Transcript

/-!
Reading commands from an input and evaluating them one by one, up to `exit`, to a fault or to the
end.
-/

namespace LineShell

/-- The lines of an input. -/
structure Input where
  /-- The lines up to the end or to the first that is no text. -/
  lines : List String
  /-- A line that is no text follows. -/
  isBroken : Bool
  deriving DecidableEq, Repr

/-- Reads lines of bytes as text. -/
def Input.ofByteLines : List (List UInt8) → Input
  | [] => ⟨[], false⟩
  | bytes :: rest =>
    match Text.Utf8.decode? bytes with
    | none => ⟨[], true⟩
    | some line =>
      let input := ofByteLines rest
      { input with lines := line :: input.lines }

/-- The lines of the bytes of an input. -/
def Input.ofBytes (bytes : List UInt8) : Input := .ofByteLines (Text.byteLines bytes)

namespace Repl

variable {σ : Type} [System σ]

/-- Why a run ended. -/
inductive Stop where
  /-- The session ended, or there are no more lines. -/
  | finished
  /-- A line was asked for that is no text. -/
  | broken
  /-- A fault ended the shell. -/
  | fault (fault : Fault)
  deriving DecidableEq, Repr

/-- How a run ended. -/
structure Ending (σ : Type) where
  events : Transcript
  log : List LogLine := []
  session : Session σ
  stop : Stop

/-- The prompts shown while a command is read that asks for `asked` further lines. -/
def prompts (config : Config) (asked : Nat) : Transcript :=
  .prompt config.prompt :: List.replicate asked (.prompt config.continuationPrompt)

/-- Evaluates commands up to `exit`, to a fault or to the end of the lines. -/
def run (config : Config) (isBroken : Bool) (session : Session σ) : List String → Ending σ
  | [] =>
    { events := prompts config 0, session, stop := if isBroken then .broken else .finished }
  | line :: rest =>
    let step := session.eval line rest
    let events := prompts config step.asked ++ step.events
    let log := session.log line rest ++ step.warning (line :: rest.take step.asked)
    if isBroken && rest.length < step.asked then
      { events, log, session := step.session, stop := .broken }
    else if let some fault := step.fault? then
      { events, log, session := step.session, stop := .fault fault }
    else if let .ok .exit := step.result then
      { events, log, session := step.session, stop := .finished }
    else
      let later := run config isBroken step.session (rest.drop step.asked)
      { later with events := events ++ later.events, log := log ++ later.log }
termination_by lines => lines.length

end Repl

end LineShell
