import LineShell.Command

/-!
Pipelines: words grouped into commands, each of which reads what the one before it wrote.

The first word of a stage names its command, whatever it is, and the stage goes on to the next word
`|`. A first word of the form `name=value` is an assignment.
-/

namespace LineShell

/-- Why words are no pipeline. -/
inductive ParseError where
  /-- The words end where a command has to stand. -/
  | expectedCommand
  deriving DecidableEq, Repr

def ParseError.message : ParseError → String
  | .expectedCommand => "Expected command after pipe"

/-- The commands of a pipeline, first stage first. -/
abbrev Pipeline := List Command

namespace Pipeline

/-- The word between two stages. -/
def separator : String := "|"

/-- Splits `name=value` at the first equals sign. The name may not be empty. -/
def splitAssignment (word : String) : Option (String × String) :=
  match word.toList.span (· ≠ '=') with
  | (c :: cs, _ :: value) => some (String.ofList (c :: cs), String.ofList value)
  | _ => none

/-- The command of a stage with the given first word and further words. -/
def stage (first : String) (args : List String) : Command :=
  match splitAssignment first with
  | some (name, value) => ⟨.assign, name :: value :: args⟩
  | none => .named first args

/-- The stages of a pipeline, the first of them having `first` for its first word and `args` for
the words after it that have been read. -/
def stages (first : String) (args : List String) : List String → Except ParseError Pipeline
  | [] => .ok [stage first args]
  | word :: rest =>
    if word = separator then
      match rest with
      | [] => .error .expectedCommand
      | next :: rest => (stages next [] rest).map (stage first args :: ·)
    else stages first (args ++ [word]) rest

/-- Groups words into a pipeline. No words are a pipeline without stages. -/
def ofWords : List String → Except ParseError Pipeline
  | [] => .ok []
  | first :: rest => stages first [] rest

end Pipeline

end LineShell
