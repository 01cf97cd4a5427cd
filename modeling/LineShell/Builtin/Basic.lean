import LineShell.Builtin.Source

/-!
The built-in commands `cat`, `wc`, `pwd` and `exit`.
-/

namespace LineShell.Builtin

open Options

variable {σ : Type} [System σ]

/-- An optional file, the only operand of `cat` and `wc`. -/
def fileOperand (about : String) : Operand (Option String) where
  name := "file"
  about := about
  required := false
  store := fun file _ => some file

def catInterface : Interface (Option String) where
  name := "cat"
  about := "Print a file, or pass piped input through."
  operands := .each [fileOperand "file to print; piped input is used when omitted"]

/-- Passes its text on. -/
def cat (world : σ) (args : List String) (input : Option String) : Except CommandError String :=
  run catInterface none args fun file => source "cat" world file input

def wcInterface : Interface (Option String) where
  name := "wc"
  about := "Count lines, words and characters."
  operands := .each [fileOperand "file to count; piped input is used when omitted"]

/-- The number of pieces between line feeds, of words and of characters. -/
def counts (text : String) : Nat × Nat × Nat :=
  ((Text.splitAt '\n' text).length, Text.wordCount text, text.length)

/-- Counts with single spaces between them. -/
def showCounts : Nat × Nat × Nat → String
  | (lines, words, chars) => Text.unwords [toString lines, toString words, toString chars]

/-- Counts its text. -/
def wc (world : σ) (args : List String) (input : Option String) : Except CommandError String :=
  run wcInterface none args fun file =>
    (source "wc" world file input).map fun text => showCounts (counts text)

def pwdInterface : Interface Unit where
  name := "pwd"
  about := "Print the current working directory."
  operands := .any "args" fun _ _ => ()

/-- Tells the working directory. -/
def pwd (world : σ) (args : List String) : Except CommandError String :=
  run pwdInterface () args fun _ =>
    match System.workingDirectory world with
    | some path => .ok path
    | none => .error .noDirectory

def exitInterface : Interface Unit where
  name := "exit"
  about := "Shut down the shell."

/-- Has no effect of its own; a shell ends when `exit` is all that a command line says. -/
def exit (args : List String) : Except CommandError String :=
  run exitInterface () args fun _ => .ok ""

end LineShell.Builtin
