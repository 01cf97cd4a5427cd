/-!
Reading of command arguments against a declared interface.

An interface lists the flags of a command, some of which take a value, and its operands. Arguments
are taken from left to right, and the first fault ends the reading. The words `help` and `--help`
ask for the usage text, and `--` makes every argument after it an operand.
-/

namespace LineShell.Options

/-- What giving a flag does to the settings read so far. -/
inductive Effect (α : Type) where
  /-- The flag stands alone and may be repeated. -/
  | switch (apply : α → α)
  /-- The flag takes the next argument, whatever it is, and may be given once. The reading of that
  argument may fail for a stated reason. -/
  | value (apply : String → α → Except String α)

structure Flag (α : Type) where
  /-- The long name, without its two dashes. -/
  long : String
  /-- The letter of the short name. -/
  short : Option Char := none
  /-- The description in the usage text. -/
  about : String
  effect : Effect α

/-- An argument that is no flag, known by its place. -/
structure Operand (α : Type) where
  name : String
  about : String
  /-- Whether the command refuses to do without it. -/
  required : Bool
  store : String → α → α

/-- The operands that a command takes. -/
inductive Operands (α : Type) where
  /-- At most one argument for each of the given operands, in their order. -/
  | each (operands : List (Operand α))
  /-- Any number of arguments. After the first of them every argument is an operand. -/
  | any (name : String) (store : String → α → α)

/-- The arguments that a command takes. -/
structure Interface (α : Type) where
  /-- The name of the command. -/
  name : String
  /-- What the command does. -/
  about : String
  flags : List (Flag α) := []
  operands : Operands α := .each []

/-- Why arguments are refused. -/
inductive Error where
  /-- No such flag, or one operand too many. -/
  | unrecognized (arg : String)
  /-- A flag after a request for help. -/
  | trailing
  /-- The arguments end where a value has to stand. -/
  | noValue (arg : String)
  /-- The flag has a value already. -/
  | duplicate (arg value : String)
  /-- The value cannot be read. -/
  | badValue (arg value reason : String)
  /-- Required operands that are missing. -/
  | missing (names : List String)
  deriving DecidableEq, Repr

/-- The text of a fault in the value of a flag. -/
def valueMessage (arg value reason : String) : String :=
  "Error parsing option '" ++ arg ++ "' with value '" ++ value ++ "': " ++ reason ++ "\n"

def Error.message : Error → String
  | .unrecognized arg => "Unrecognized argument: " ++ arg ++ "\n"
  | .trailing => "Trailing arguments are not allowed after `help`."
  | .noValue arg => "No value provided for option '" ++ arg ++ "'.\n"
  | .duplicate arg value => valueMessage arg value "duplicate values provided"
  | .badValue arg value reason => valueMessage arg value reason
  | .missing names =>
    "Required positional arguments not provided:\n" ++
      String.join (names.map fun name => "    " ++ name ++ "\n")

/-- The long name as it is written. -/
def Flag.longName {α : Type} (f : Flag α) : String := "--" ++ f.long

/-- The short name as it is written. -/
def Flag.shortName? {α : Type} (f : Flag α) : Option String :=
  f.short.map fun c => "-" ++ String.singleton c

/-- Whether `arg` is one of the flag's names. -/
def Flag.isNamed {α : Type} (f : Flag α) (arg : String) : Bool :=
  f.longName = arg || f.shortName? = some arg

/-- The words that ask for the usage text. -/
def isHelpWord (arg : String) : Bool := arg = "--help" || arg = "help"

/-- How far the reading of the arguments has come. -/
structure Cursor (α : Type) where
  settings : α
  /-- Only operands may follow. -/
  ended : Bool := false
  /-- The usage text was asked for. -/
  helpAsked : Bool := false
  /-- The long names of the flags whose value has been read. -/
  given : List String := []
  /-- How many operands have been read. -/
  taken : Nat := 0

namespace Interface

variable {α : Type} (i : Interface α)

/-- Takes one argument as an operand. -/
def takeOperand (c : Cursor α) (arg : String) : Except Error (Cursor α) :=
  match i.operands with
  | .each operands =>
    match operands[c.taken]? with
    | some operand => .ok { c with settings := operand.store arg c.settings, taken := c.taken + 1 }
    | none => .error (.unrecognized arg)
  | .any _ store =>
    .ok { c with settings := store arg c.settings, taken := c.taken + 1, ended := true }

/-- Takes the value of a flag that was written as `arg`. -/
def takeValue (c : Cursor α) (flag : Flag α) (apply : String → α → Except String α)
    (arg value : String) : Except Error (Cursor α) :=
  if flag.long ∈ c.given then .error (.duplicate arg value)
  else
    match apply value c.settings with
    | .ok settings => .ok { c with settings, given := flag.long :: c.given }
    | .error reason => .error (.badValue arg value reason)

/-- Takes all arguments. -/
def takeAll (c : Cursor α) : List String → Except Error (Cursor α)
  | [] => .ok c
  | arg :: rest =>
    if !c.ended && isHelpWord arg then takeAll { c with helpAsked := true } rest
    else if !c.ended && arg.toList.head? = some '-' then
      if arg = "--" then takeAll { c with ended := true } rest
      else if c.helpAsked then .error .trailing
      else
        match i.flags.find? (·.isNamed arg) with
        | none => .error (.unrecognized arg)
        | some flag =>
          match flag.effect with
          | .switch apply => takeAll { c with settings := apply c.settings } rest
          | .value apply =>
            match rest with
            | [] => .error (.noValue arg)
            | value :: rest =>
              match takeValue c flag apply arg value with
              | .ok c => takeAll c rest
              | .error e => .error e
    else
      match i.takeOperand c arg with
      | .ok c => takeAll c rest
      | .error e => .error e

/-- The names of the required operands that stand after the first `taken` operands. -/
def missingOperands (taken : Nat) : List String :=
  match i.operands with
  | .each operands => ((operands.drop taken).filter (·.required)).map (·.name)
  | .any .. => []

end Interface

/-- What arguments without a fault ask for. -/
inductive Request (α : Type) where
  /-- Doing the job with these settings. -/
  | settings (settings : α)
  /-- The usage text. -/
  | help

/-- Reads arguments, starting from the settings that hold when nothing is given. -/
def Interface.read {α : Type} (i : Interface α) (defaults : α) (args : List String) :
    Except Error (Request α) :=
  match i.takeAll { settings := defaults } args with
  | .error e => .error e
  | .ok c =>
    if c.helpAsked then .ok .help
    else
      match i.missingOperands c.taken with
      | [] => .ok (.settings c.settings)
      | names => .error (.missing names)

end LineShell.Options
