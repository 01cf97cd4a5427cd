import LineShell.Builtin.Basic
import LineShell.Builtin.Grep
import LineShell.Command
import LineShell.Lookup
import LineShell.Scope

/-!
Running a command as a stage of a pipeline.
-/

namespace LineShell

variable {σ : Type} [System σ]

/-- What running a stage gives. -/
structure StageResult (σ : Type) where
  /-- Its output, or why it failed. -/
  result : Except CommandError String
  scope : Scope
  world : σ
  /-- What the program of the stage wrote to its error stream. -/
  errors : List UInt8 := []

/-- The path of the program that `name` calls. -/
def programPath? (world : σ) (name : String) : Option String :=
  Lookup.find (System.pathExists world) (System.isFile world) (System.searchPath world) name

/-- What comes of a program that ended. Its output is read as UTF-8 and loses its trailing blanks. A
program fails if its input could not be written, whatever its status, but it need not have read all
of it. Of an empty input there is nothing to write. -/
def Finished.result (name input : String) (f : Finished) : Except CommandError String :=
  if input ≠ "" ∧ f.delivery = .broken then .error (.inputBroken name)
  else if input ≠ "" ∧ f.delivery = .failed then .error (.inputFailed name)
  else if f.status = .exited 0 then .ok (Text.trimEnd (Text.Utf8.decodeLossy f.output))
  else .error (.failed name f.status)

/-- Runs the program that `name` calls. -/
def runProgram (name : String) (args : List String) (input : Option String) (scope : Scope)
    (world : σ) : StageResult σ :=
  match programPath? world name with
  | none => { result := .error (.notFound name), scope, world }
  | some path =>
    match System.execute world path args (Text.Utf8.encode (input.getD "")) with
    | .notStarted => { result := .error (.notStarted name), scope, world }
    | .lost errors world => { result := .error (.notAwaited name), scope, world, errors }
    | .ended finished world =>
      { result := finished.result name (input.getD ""), scope, world, errors := finished.errors }

/-- Runs a command. The input is the output of the stage before, if there is one. -/
def Command.run (c : Command) (input : Option String) (scope : Scope) (world : σ) :
    StageResult σ :=
  match c.kind with
  | .assign =>
    match c.args with
    | [name, value] => { result := .ok "", scope := scope.set name value, world }
    | _ => { result := .error .assignmentShape, scope, world }
  | .echo => { result := .ok (Text.unwords c.args), scope, world }
  | .cat => { result := Builtin.cat world c.args input, scope, world }
  | .wc => { result := Builtin.wc world c.args input, scope, world }
  | .pwd => { result := Builtin.pwd world c.args, scope, world }
  | .exit => { result := Builtin.exit c.args, scope, world }
  | .grep => { result := Builtin.grep world c.args input, scope, world }
  | .external name => runProgram name c.args input scope world

end LineShell
