import LineShell.Text.Lines

/-!
Commands: what a stage of a pipeline runs, and with which arguments.
-/

namespace LineShell

/-- What a command name stands for. -/
inductive Kind where
  | assign
  | cat
  | echo
  | wc
  | pwd
  | exit
  | grep
  /-- A program outside the shell. -/
  | external (name : String)
  deriving DecidableEq, Repr

namespace Kind

/-- The name of the assignment command. -/
def assignName : String := "="

/-- What a name stands for: a built-in command of that name, or else a program. -/
def ofName (name : String) : Kind :=
  if name = assignName then .assign
  else if name = "cat" then .cat
  else if name = "echo" then .echo
  else if name = "wc" then .wc
  else if name = "pwd" then .pwd
  else if name = "exit" then .exit
  else if name = "grep" then .grep
  else .external name

/-- The name that stands for a kind. -/
def name : Kind → String
  | .assign => assignName
  | .cat => "cat"
  | .echo => "echo"
  | .wc => "wc"
  | .pwd => "pwd"
  | .exit => "exit"
  | .grep => "grep"
  | .external name => name

@[simp] theorem name_ofName (name : String) : (ofName name).name = name := by
  unfold ofName
  repeat' split
  all_goals simp_all [Kind.name]

end Kind

/-- A command with its arguments. -/
structure Command where
  kind : Kind
  args : List String
  deriving DecidableEq, Repr

namespace Command

/-- The command that `name` stands for. -/
def named (name : String) (args : List String) : Command := ⟨.ofName name, args⟩

/-- The command that binds `name` to `value`. -/
def assignment (name value : String) : Command := ⟨.assign, [name, value]⟩

/-- The name of the command. -/
def name (c : Command) : String := c.kind.name

/-- The name and the arguments with single spaces between them. -/
def display (c : Command) : String := Text.unwords (c.name :: c.args)

end Command

end LineShell
