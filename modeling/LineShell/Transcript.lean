import LineShell.Session
import LineShell.Text.Utf8

/-!
Transcripts: what a shell shows, in order.
-/

namespace LineShell

/-- One thing that a shell shows. -/
inductive Event where
  /-- A prompt, shown before a line is read. -/
  | prompt (text : String)
  /-- The output of a command. -/
  | output (text : String)
  /-- What programs wrote to their error streams. -/
  | errors (bytes : List UInt8)
  /-- Why a command failed. -/
  | failure (error : ShellError)
  deriving DecidableEq, Repr

abbrev Transcript := List Event

/-- What an event adds to the standard output. Outputs end in a line feed, prompts do not, and
prompts are only shown if there is someone to see them. -/
def Event.toOutput (prompts : Bool) : Event → String
  | .prompt text => if prompts then text else ""
  | .output text => text ++ "\n"
  | _ => ""

/-- What an event adds to the standard error stream. -/
def Event.toErrors : Event → List UInt8
  | .errors bytes => bytes
  | .failure error => Text.Utf8.encode (error.message ++ "\n")
  | _ => []

def Transcript.output (prompts : Bool) (t : Transcript) : String :=
  String.join (t.map (·.toOutput prompts))

def Transcript.errors (t : Transcript) : List UInt8 := t.flatMap Event.toErrors

/-- What evaluating a command shows. A fault is not reported as other failures are. -/
def Step.events {σ : Type} (s : Step σ) : Transcript :=
  .errors s.errors ::
    match s.result with
    | .ok (.output text) => [.output text]
    | .ok _ => []
    | .error e => if e.fault?.isSome then [] else [.failure e]

end LineShell
