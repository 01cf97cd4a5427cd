import LineShell.Script.Format
import LineShell.Script.Parser
import LineShell.System

/-!
The state of a running script, the expansion of its words and the commands that it knows by itself.
-/

namespace LineShell.Script

/-- What a script can ask of the system that runs it, whose states are `ω`. -/
structure Host (ω : Type) where
  /-- Runs a program that is called by its name. -/
  spawn : ω → String → List String → List UInt8 → Option (Finished × ω)
  pathExists : ω → String → Bool
  isFile : ω → String → Bool
  isDirectory : ω → String → Bool

/-- The state of a running script. -/
structure Process (ω : Type) where
  world : ω
  vars : List (String × String)
  /-- The name of the script. -/
  name : String
  args : List String
  /-- The input that has not been read. -/
  input : List UInt8
  output : List UInt8 := []
  errors : List UInt8 := []
  status : Nat := 0
  /-- The script has ended. -/
  ended : Bool := false

namespace Process

variable {ω : Type}

/-- The value of a variable; one that is not set is empty. -/
def get (p : Process ω) (name : String) : String := (p.vars.lookup name).getD ""

def set (p : Process ω) (name value : String) : Process ω :=
  { p with vars := (name, value) :: p.vars.filter (·.1 ≠ name) }

def write (p : Process ω) (bytes : List UInt8) : Process ω :=
  { p with output := p.output ++ bytes }

/-- Writes a line to the error stream. -/
def complain (p : Process ω) (message : String) : Process ω :=
  { p with errors := p.errors ++ Text.Utf8.encode (p.name ++ ": 1: " ++ message ++ "\n") }

def withStatus (p : Process ω) (status : Nat) : Process ω := { p with status }

/-- The characters that separate fields. -/
def separators (p : Process ω) : List Char := ((p.vars.lookup "IFS").getD " \t\n").toList

/-- The value of a parameter as one text. -/
def param (p : Process ω) : Param → String
  | .named name => p.get name
  | .arg 0 => p.name
  | .arg (n + 1) => (p.args[n]?).getD ""
  | .args | .argsJoined => " ".intercalate p.args
  | .argCount => toString p.args.length
  | .status => toString p.status

/-- The text of a word that is not split. -/
def wordText (p : Process ω) (w : Word) : String :=
  String.join (w.map fun
    | .text s _ => s
    | .param q _ => p.param q)

/-- Fields under construction: those that are complete, and the last one if it has begun. -/
structure Fields where
  done : List String := []
  last : Option String := none

/-- Adds text to the last field. -/
def Fields.append (f : Fields) (s : String) : Fields := { f with last := some (f.last.getD "" ++ s) }

/-- Ends the last field if it has begun. -/
def Fields.endField (f : Fields) : Fields := { done := f.done ++ f.last.toList }

/-- Adds text that is split at separators. -/
def Fields.appendSplit (separators : List Char) (f : Fields) (s : String) : Fields :=
  s.toList.foldl (fun f c =>
    if separators.contains c then f.endField else f.append (String.singleton c)) f

/-- Adds texts as fields of their own. -/
def Fields.appendEach (f : Fields) : List String → Fields
  | [] => f
  | [s] => f.append s
  | s :: rest => (f.append s).endField.appendEach rest

/-- The fields of a word. -/
def fields (p : Process ω) (w : Word) : List String :=
  let add (f : Fields) : WordPart → Fields
    | .text s _ => f.append s
    | .param .args true => f.appendEach p.args
    | .param q true => f.append (p.param q)
    | .param q false => f.appendSplit p.separators (p.param q)
  (w.foldl add {}).endField.done

/-! ### Commands -/

/-- The numeric comparison that an operator of `test` stands for. -/
def compareInts? : String → Option (Int → Int → Bool)
  | "-eq" => some (· == ·)
  | "-ne" => some (· != ·)
  | "-lt" => some (· < ·)
  | "-le" => some (· ≤ ·)
  | "-gt" => some (· > ·)
  | "-ge" => some (· ≥ ·)
  | _ => none

/-- Whether the condition that `test` is given holds. -/
def test (host : Host ω) (world : ω) : List String → Bool
  | [] => false
  | "!" :: c :: cs => !test host world (c :: cs)
  | [s] => s ≠ ""
  | ["-n", s] => s ≠ ""
  | ["-z", s] => s = ""
  | ["-e", path] => host.pathExists world path
  | ["-f", path] => host.isFile world path
  | ["-d", path] => host.isDirectory world path
  | [a, "=", b] => a = b
  | [a, "!=", b] => a ≠ b
  | [a, op, b] =>
    match compareInts? op with
    | some compare => compare (readInt a) (readInt b)
    | none => false
  | _ => false

/-- Takes a line from the input: its bytes, whether a line feed ended it, and what is left. Unless
`raw` holds, a backslash hides the character after it from everything and joins lines. The flags
tell which characters were hidden. -/
def takeLine (raw : Bool) : Nat → List Char → List (Char × Bool) × Bool × List Char
  | 0, cs => ([], false, cs)
  | _ + 1, [] => ([], false, [])
  | _ + 1, '\n' :: cs => ([], true, cs)
  | n + 1, c :: cs =>
    match raw, c, cs with
    | false, '\\', '\n' :: cs => takeLine raw n cs
    | false, '\\', d :: cs =>
      let (line, ended, rest) := takeLine raw n cs
      ((d, true) :: line, ended, rest)
    | _, _, _ =>
      let (line, ended, rest) := takeLine raw n cs
      ((c, false) :: line, ended, rest)

/-- Sets variables to the fields of a line. The last one takes all that is left. -/
def assignFields (isSep : Char × Bool → Bool) (p : Process ω) :
    List String → List (Char × Bool) → Process ω
  | [], _ => p
  | [name], line =>
    let rest := line.dropWhile isSep
    let kept := (rest.reverse.dropWhile isSep).reverse
    p.set name (String.ofList (kept.map (·.1)))
  | name :: names, line =>
    let (field, rest) := (line.dropWhile isSep).span (!isSep ·)
    assignFields isSep (p.set name (String.ofList (field.map (·.1)))) names rest

/-- Reads a line into variables. It fails if the input ends before a line feed. -/
def read (p : Process ω) (args : List String) : Process ω :=
  let (raw, names) := match args with
    | "-r" :: names => (true, names)
    | names => (false, names)
  let cs := (Text.Utf8.decodeLossy p.input).toList
  let (line, ended, rest) := takeLine raw (cs.length + 1) cs
  let separators := p.separators
  let isSep (c : Char × Bool) : Bool := !c.2 && separators.contains c.1
  let p := { p with input := Text.Utf8.encode (String.ofList rest) }
  (assignFields isSep p names line).withStatus (if ended then 0 else 1)

/-- Runs a command that the script knows by itself. -/
def builtin? (host : Host ω) (p : Process ω) (args : List String) : String → Option (Process ω)
  | ":" | "true" => some (p.withStatus 0)
  | "false" => some (p.withStatus 1)
  | "echo" => some ((p.write (echoBytes args)).withStatus 0)
  | "printf" =>
    match args with
    | [] => some ((p.complain "printf: usage: printf format [arg ...]").withStatus 2)
    | format :: args => some ((p.write (printfBytes format args)).withStatus 0)
  | "read" => some (p.read args)
  | "test" => some (p.withStatus (if test host p.world args then 0 else 1))
  | "[" => some (p.withStatus (if test host p.world args.dropLast then 0 else 1))
  | "shift" => some ({ p with args := p.args.drop 1 }.withStatus 0)
  | "pwd" => some ((p.write (Text.Utf8.encode (p.get "PWD" ++ "\n"))).withStatus 0)
  | "exit" =>
    let status := match args with
      | [] => p.status
      | n :: _ => (readInt n % 256).toNat
    some { p with status, ended := true }
  | _ => none

/-- How a program ended, as scripts see it. -/
def statusOf : ExitStatus → Nat
  | .exited code => code
  | .signaled signal _ => 128 + signal

/-- Runs a program outside the script. -/
def spawn (host : Host ω) (p : Process ω) (name : String) (args : List String) : Process ω :=
  match host.spawn p.world name args p.input with
  | some (finished, world) =>
    { p with
      world
      input := []
      output := p.output ++ finished.output
      errors := p.errors ++ finished.errors
      status := statusOf finished.status }
  | none => (p.complain (name ++ ": not found")).withStatus 127

/-- Runs a simple command. Assignments in front of it hold while it runs, and for good if there is
no command. -/
def simple (host : Host ω) (p : Process ω) (assignments : List (String × Word))
    (words : List Word) : Process ω :=
  let assigned := assignments.foldl (fun q a => q.set a.1 (q.wordText a.2)) p
  match words.flatMap p.fields with
  | [] => assigned.withStatus 0
  | name :: args =>
    let after := match builtin? host assigned args name with
      | some q => q
      | none => assigned.spawn host name args
    let restore (q : Process ω) (name : String) : Process ω :=
      match p.vars.lookup name with
      | some value => q.set name value
      | none => { q with vars := q.vars.filter (·.1 ≠ name) }
    assignments.foldl (fun q a => restore q a.1) after

/-- Where the output and the error stream go: to stream 1, to stream 2 or nowhere. -/
def redirectStreams (rs : List Redirect) : Nat × Nat :=
  rs.foldl (fun (out, err) r =>
    let target : Nat → Nat
      | 1 => out
      | 2 => err
      | _ => 0
    match r with
    | .duplicate 1 n => (target n, err)
    | .duplicate 2 n => (out, target n)
    | .discard 1 => (0, err)
    | .discard 2 => (out, 0)
    | _ => (out, err)) (1, 2)

/-- Sends what `inner` wrote where the redirections say. -/
def redirected (p : Process ω) (rs : List Redirect) (inner : Process ω) : Process ω :=
  let (out, err) := redirectStreams rs
  let sent (stream : Nat) : List UInt8 :=
    (if out = stream then inner.output else []) ++ (if err = stream then inner.errors else [])
  { inner with output := p.output ++ sent 1, errors := p.errors ++ sent 2 }

end Process

end LineShell.Script
