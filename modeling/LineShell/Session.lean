import LineShell.Expansion
import LineShell.Pipeline
import LineShell.Stage

/-!
Sessions: logical commands are read, expanded and run one after the other, and the variables that
they assign stay.
-/

namespace LineShell

variable {σ : Type} [System σ]

/-- What a logical command leads to. -/
inductive Outcome where
  /-- There was nothing to run, or the lines ended inside a quote. -/
  | nothing
  /-- The output of the last stage. -/
  | output (text : String)
  /-- The command asks to end the session. -/
  | exit
  deriving DecidableEq, Repr

/-- Why a logical command fails. -/
inductive ShellError where
  | expansion (error : ExpansionError)
  | parse (error : ParseError)
  | command (error : CommandError)
  deriving DecidableEq, Repr

def ShellError.message : ShellError → String
  | .expansion error => error.message
  | .parse error => error.message
  | .command error => error.message

/-- The fault that ends the shell, if there is one. -/
def ShellError.fault? : ShellError → Option Fault
  | .command (.fault fault) => some fault
  | _ => none

/-- The words of a logical command as far as the lines at hand tell. -/
structure Gathered where
  /-- The words, nothing if the lines ended inside a quote, or an error. -/
  words : Except ExpansionError (Option (List String))
  /-- How often a further line was asked for, also in vain. -/
  asked : Nat

/-- Takes further lines until no quote is open. -/
def Progress.gather (scope : Scope) (p : Progress) (more : List String) : Gathered :=
  if p.isComplete then ⟨.ok (some p.words), 0⟩
  else
    match more with
    | [] => ⟨.ok none, 1⟩
    | line :: more =>
      match p.feed scope line with
      | .error e => ⟨.error e, 1⟩
      | .ok p =>
        let rest := p.gather scope more
        { rest with asked := rest.asked + 1 }

/-- Reads a logical command that starts with `line`. -/
def gather (scope : Scope) (line : String) (more : List String) : Gathered :=
  match expand scope line with
  | .error e => ⟨.error e, 0⟩
  | .ok p => p.gather scope more

/-- Runs stages one after the other, each on the output of the one before and with a scope of its
own, up to the first that fails. -/
def runStages (input : Option String) (world : σ) :
    Pipeline → Except CommandError String × σ × List UInt8
  | [] => (.ok (input.getD ""), world, [])
  | c :: rest =>
    let done := c.run input .empty world
    match done.result with
    | .error e => (.error e, done.world, done.errors)
    | .ok text =>
      let (result, world, errors) := runStages (some text) done.world rest
      (result, world, done.errors ++ errors)

/-- The state of a session. -/
structure Session (σ : Type) where
  scope : Scope := .empty
  world : σ

/-- What evaluating one logical command gives. -/
structure Step (σ : Type) where
  result : Except ShellError Outcome
  /-- How often a further line was asked for, also in vain. -/
  asked : Nat := 0
  session : Session σ
  /-- What programs wrote to their error streams. -/
  errors : List UInt8 := []

/-- The fault at which the shell ended in the middle of the command. -/
def Step.fault? {σ : Type} (step : Step σ) : Option Fault :=
  match step.result with
  | .error e => e.fault?
  | .ok _ => none

namespace Session

/-- Runs a pipeline. A single stage works on the scope of the session; a single `exit` is not run,
whatever its arguments. -/
def runPipeline (s : Session σ) : Pipeline → Step σ
  | [] => { result := .ok .nothing, session := s }
  | [c] =>
    if c.kind = .exit then { result := .ok .exit, session := s }
    else
      let done := c.run none s.scope s.world
      { result := (done.result.map .output).mapError .command
        session := { scope := done.scope, world := done.world }
        errors := done.errors }
  | stages =>
    let (result, world, errors) := runStages none s.world stages
    { result := (result.map .output).mapError .command
      session := { s with world }
      errors }

/-- Evaluates the logical command that starts with `line`. While a quote is open it takes further
lines from `more`; if they run out, the command is dropped. -/
def eval (s : Session σ) (line : String) (more : List String) : Step σ :=
  let gathered := gather s.scope line more
  match gathered.words with
  | .error e => { result := .error (.expansion e), asked := gathered.asked, session := s }
  | .ok none => { result := .ok .nothing, asked := gathered.asked, session := s }
  | .ok (some words) =>
    match Pipeline.ofWords words with
    | .error e => { result := .error (.parse e), asked := gathered.asked, session := s }
    | .ok stages => { s.runPipeline stages with asked := gathered.asked }

end Session

end LineShell
