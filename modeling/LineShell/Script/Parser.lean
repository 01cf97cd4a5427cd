import LineShell.Script.Token

/-!
The grammar of shell scripts: lists of commands, conditions and loops.
-/

namespace LineShell.Script

/-- A change of where a stream goes. -/
inductive Redirect where
  /-- The stream goes where another one goes. -/
  | duplicate (stream target : Nat)
  /-- What is written to the stream is lost. -/
  | discard (stream : Nat)
  deriving DecidableEq, Repr

/-- A piece of a script that can be run. -/
inductive Code where
  | nothing
  | simple (assignments : List (String × Word)) (words : List Word)
  | seq (first second : Code)
  /-- The second runs if the first succeeds. -/
  | and (first second : Code)
  /-- The second runs if the first fails. -/
  | or (first second : Code)
  | not (body : Code)
  /-- The second reads what the first writes. -/
  | pipe (first second : Code)
  | cond (test yes no : Code)
  /-- The body runs as long as the test succeeds, or fails if `isUntil` holds. After the first round
  `again` holds. -/
  | loop (again isUntil : Bool) (test body : Code)
  | each (name : String) (words : List Word) (body : Code)
  /-- The body runs on a copy of the variables. -/
  | apart (body : Code)
  | redirected (redirects : List Redirect) (body : Code)
  deriving Repr

/-- Code whose streams are redirected, if they are. -/
def Code.redirect (redirects : List Redirect) (body : Code) : Code :=
  if redirects.isEmpty then body else .redirected redirects body

/-- Splits the rest of a word of the form `name=value`, of whose name `name` has been read. -/
def assignmentRest (name : String) : Word → Option (String × Word)
  | .text s false :: rest =>
    match s.toList with
    | ['='] => some (name, rest)
    | [c] => if isNameChar c then assignmentRest (name ++ s) rest else none
    | _ => none
  | _ => none

/-- Splits a word of the form `name=value`. -/
def assignment? : Word → Option (String × Word)
  | .text s false :: rest =>
    match s.toList with
    | [c] => if isNameStart c then assignmentRest s rest else none
    | _ => none
  | _ => none

/-- The redirection of a stream by a sign and the word after it. -/
def redirect? (stream : Nat) (sign : String) (target : Word) : Option Redirect :=
  match sign, plainText target with
  | ">&", some "1" => some (.duplicate stream 1)
  | ">&", some "2" => some (.duplicate stream 2)
  | ">", some "/dev/null" => some (.discard stream)
  | ">>", some "/dev/null" => some (.discard stream)
  | "<", some "/dev/null" => some (.discard stream)
  | _, _ => none

/-- Reads redirections. -/
def redirects : List Token → Option (List Redirect × List Token)
  | .redirect stream sign :: .word target :: rest => do
    let r ← redirect? stream sign target
    let (more, rest) ← redirects rest
    some (r :: more, rest)
  | .redirect .. :: _ => none
  | rest => some ([], rest)

/-- Reads the words and redirections of a simple command. -/
def simpleRest : List Token → Option (List Word × List Redirect × List Token)
  | .word w :: rest => do
    let (words, rs, rest) ← simpleRest rest
    some (w :: words, rs, rest)
  | .redirect stream sign :: .word target :: rest => do
    let r ← redirect? stream sign target
    let (words, rs, rest) ← simpleRest rest
    some (words, r :: rs, rest)
  | .redirect .. :: _ => none
  | rest => some ([], [], rest)

/-- The assignments in front of the other words of a command. -/
def leadingAssignments : List Word → List (String × Word) × List Word
  | [] => ([], [])
  | w :: ws =>
    match assignment? w with
    | some a =>
      let (more, rest) := leadingAssignments ws
      (a :: more, rest)
    | none => ([], w :: ws)

/-- Words that end a list of commands. -/
def endsList (t : Token) : Bool :=
  match t with
  | .sign ")" => true
  | t =>
    match t.plain? with
    | some w => ["then", "else", "elif", "fi", "do", "done", "\x7d"].contains w
    | none => false

/-- Passes over ends of commands. -/
def skipEnds : List Token → List Token
  | .sign ";" :: rest => skipEnds rest
  | rest => rest

/-- Takes the given reserved word. -/
def expect (word : String) : List Token → Option (List Token)
  | t :: rest => if t.plain? = some word then some rest else none
  | [] => none

mutual

/-- Reads a list of commands. -/
def readList : Nat → List Token → Option (Code × List Token)
  | 0, _ => none
  | n + 1, ts =>
    match skipEnds ts with
    | [] => some (.nothing, [])
    | t :: ts =>
      if endsList t then some (.nothing, t :: ts)
      else do
        let (first, ts) ← readAndOr n (t :: ts)
        match ts with
        | .sign ";" :: _ =>
          let (rest, ts) ← readList n ts
          some (.seq first rest, ts)
        | ts => some (first, ts)

/-- Reads pipelines joined by `&&` and `||`. -/
def readAndOr : Nat → List Token → Option (Code × List Token)
  | 0, _ => none
  | n + 1, ts => do
    let (first, ts) ← readPipeline n ts
    readAndOrRest n first ts

/-- Reads the pipelines after the first. -/
def readAndOrRest : Nat → Code → List Token → Option (Code × List Token)
  | 0, _, _ => none
  | n + 1, first, ts =>
    match ts with
    | .sign "&&" :: ts => do
      let (second, ts) ← readPipeline n (skipEnds ts)
      readAndOrRest n (.and first second) ts
    | .sign "||" :: ts => do
      let (second, ts) ← readPipeline n (skipEnds ts)
      readAndOrRest n (.or first second) ts
    | ts => some (first, ts)

/-- Reads a pipeline, which an exclamation mark negates. -/
def readPipeline : Nat → List Token → Option (Code × List Token)
  | 0, _ => none
  | n + 1, ts =>
    match ts with
    | [] => none
    | t :: rest =>
      if t.plain? = some "!" then do
        let (body, ts) ← readPipeline n rest
        some (.not body, ts)
      else do
        let (first, ts) ← readCommand n ts
        match ts with
        | .sign "|" :: ts =>
          let (second, ts) ← readPipeline n (skipEnds ts)
          some (.pipe first second, ts)
        | ts => some (first, ts)

/-- Reads a command. -/
def readCommand : Nat → List Token → Option (Code × List Token)
  | 0, _ => none
  | n + 1, ts =>
    match ts with
    | [] => none
    | .sign "(" :: ts => do
      let (body, ts) ← readList n ts
      match ts with
      | .sign ")" :: ts =>
        let (rs, ts) ← redirects ts
        some (.redirect rs (.apart body), ts)
      | _ => none
    | .sign _ :: _ => none
    | t :: rest =>
      match t.plain? with
      | some "\x7b" => do
        let (body, ts) ← readList n rest
        let (rs, ts) ← redirects (← expect "\x7d" ts)
        some (.redirect rs body, ts)
      | some "if" => do
        let (body, ts) ← readIf n rest
        let (rs, ts) ← redirects ts
        some (.redirect rs body, ts)
      | some "while" => readLoop n false rest
      | some "until" => readLoop n true rest
      | some "for" =>
        match rest with
        | name :: word :: ts => do
          let name ← name.plain?
          let _ ← if word.plain? = some "in" then some () else none
          let (words, _, ts) ← simpleRest ts
          let ts ← expect "do" (skipEnds ts)
          let (body, ts) ← readList n ts
          let (rs, ts) ← redirects (← expect "done" ts)
          some (.redirect rs (.each name words body), ts)
        | _ => none
      | _ => do
        if endsList t then none
        let (words, rs, ts) ← simpleRest ts
        let (assignments, words) := leadingAssignments words
        some (.redirect rs (.simple assignments words), ts)

/-- Reads what follows `if` or `elif`. -/
def readIf : Nat → List Token → Option (Code × List Token)
  | 0, _ => none
  | n + 1, ts => do
    let (test, ts) ← readList n ts
    let (yes, ts) ← readList n (← expect "then" ts)
    match ts with
    | t :: rest =>
      match t.plain? with
      | some "fi" => some (.cond test yes .nothing, rest)
      | some "elif" =>
        let (no, ts) ← readIf n rest
        some (.cond test yes no, ts)
      | some "else" =>
        let (no, ts) ← readList n rest
        some (.cond test yes no, ← expect "fi" ts)
      | _ => none
    | [] => none

/-- Reads what follows `while` or `until`. -/
def readLoop : Nat → Bool → List Token → Option (Code × List Token)
  | 0, _, _ => none
  | n + 1, isUntil, ts => do
    let (test, ts) ← readList n ts
    let (body, ts) ← readList n (← expect "do" ts)
    let (rs, ts) ← redirects (← expect "done" ts)
    some (.redirect rs (.loop false isUntil test body), ts)

end

/-- The code that a text writes. Each token is read in a bounded number of nested steps, so the
bound on the depth is never met. -/
def parse (text : String) : Option Code := do
  let ts ← tokenize text
  match ← readList (8 * ts.length + 8) ts with
  | (code, []) => some code
  | _ => none

end LineShell.Script
