import LineShell.Options
import LineShell.Text.Lines
import LineShell.Text.Split

/-!
The usage text of an interface: a line with the shape of the arguments, what the command does, and a
table of the operands and flags. Descriptions start in a fixed column and are wrapped at a fixed
width.
-/

namespace LineShell.Options

/-- The column in which descriptions start. -/
def aboutColumn : Nat := 20

/-- The greatest width of a line that was wrapped. -/
def wrapWidth : Nat := 80

/-- Spaces up to the column of the descriptions. -/
def padding (width : Nat) : String := String.ofList (List.replicate (aboutColumn - width) ' ')

/-- Lays out words after `line`, starting a new line where the next word would pass the wrap width.
A line has at least one word. -/
def wrapWords (line : String) : List String → List String
  | [] => [line]
  | word :: rest =>
    if line.length + word.length + 1 > wrapWidth then
      line :: wrapWords (padding 0 ++ word) rest
    else wrapWords (line ++ " " ++ word) rest

/-- The lines of one entry of the table. A name that reaches the column of the descriptions has a
line of its own. -/
def entryLines (name about : String) : List String :=
  let head := "  " ++ name
  match Text.splitAt ' ' about with
  | [] => [head]
  | word :: rest =>
    if head.length < aboutColumn then wrapWords (head ++ padding head.length ++ word) rest
    else head :: wrapWords (padding 0 ++ word) rest

/-- The names of a flag in the table. -/
def Flag.entryName {α : Type} (f : Flag α) : String :=
  match f.shortName? with
  | some short => short ++ ", " ++ f.longName
  | none => f.longName

/-- A flag in the usage line, by its short name if it has one. -/
def Flag.shape {α : Type} (f : Flag α) : String :=
  let name := f.shortName?.getD f.longName
  match f.effect with
  | .switch _ => "[" ++ name ++ "]"
  | .value _ => "[" ++ name ++ " <" ++ f.long ++ ">]"

/-- An operand in the usage line. -/
def Operand.shape {α : Type} (o : Operand α) : String :=
  if o.required then "<" ++ o.name ++ ">" else "[<" ++ o.name ++ ">]"

/-- The operands in the usage line. -/
def Operands.shapes {α : Type} : Operands α → List String
  | .each [] => []
  | .each operands => "[--]" :: operands.map (·.shape)
  | .any name _ => ["[" ++ name ++ "...]"]

/-- The part of the table that lists the operands. -/
def Operands.table {α : Type} : Operands α → List String
  | .each [] => []
  | .each operands =>
    "Positional Arguments:" :: operands.flatMap (fun o => entryLines o.name o.about) ++ [""]
  | .any .. => []

/-- The usage text, with a line feed after each line. -/
def Interface.usage {α : Type} (i : Interface α) : String :=
  let shape := Text.unwords ("Usage:" :: i.name :: i.flags.map (·.shape) ++ i.operands.shapes)
  let flags := i.flags.flatMap fun f => entryLines f.entryName f.about
  let help := entryLines "--help, help" "display usage information"
  let lines := [shape, "", i.about, ""] ++ i.operands.table ++ "Options:" :: flags ++ help
  String.join (lines.map (· ++ "\n"))

end LineShell.Options
