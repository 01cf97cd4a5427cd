import LineShell.Text.Blank

/-!
Tokens of shell scripts. A word is a sequence of parts, and each part knows whether it was quoted,
because only what is not quoted is split into fields or has a special meaning.
-/

namespace LineShell.Script

/-- What a dollar sign refers to. -/
inductive Param where
  | named (name : String)
  /-- The script itself is number 0, its arguments follow. -/
  | arg (n : Nat)
  /-- All arguments, each a field of its own inside quotes. -/
  | args
  /-- All arguments, one field inside quotes. -/
  | argsJoined
  | argCount
  /-- The status of the last command. -/
  | status
  deriving DecidableEq, Repr

inductive WordPart where
  | text (s : String) (quoted : Bool)
  | param (p : Param) (quoted : Bool)
  deriving DecidableEq, Repr

abbrev Word := List WordPart

inductive Token where
  | word (parts : Word)
  /-- A sign such as `;` or `&&`. The end of a line counts as `;`. -/
  | sign (text : String)
  /-- The start of a redirection of the stream `stream`; a word with the target follows. -/
  | redirect (stream : Nat) (sign : String)
  deriving DecidableEq, Repr

/-- The text of a word without quotes and parameters. -/
def plainText : Word → Option String
  | [] => some ""
  | .text s false :: rest => (plainText rest).map (s ++ ·)
  | _ => none

/-- The text of a token that is a word without quotes and parameters. -/
def Token.plain? : Token → Option String
  | .word parts => plainText parts
  | _ => none

def isNameStart (c : Char) : Bool := c.isAlpha || c == '_'

def isNameChar (c : Char) : Bool := c.isAlphanum || c == '_'

/-- Characters that end a word unless they are quoted. -/
def endsWord (c : Char) : Bool := " \t\n;&|<>()".toList.contains c

/-- Reads what follows a dollar sign. -/
def readParam : List Char → Option (Param × List Char)
  | '@' :: cs => some (.args, cs)
  | '*' :: cs => some (.argsJoined, cs)
  | '#' :: cs => some (.argCount, cs)
  | '?' :: cs => some (.status, cs)
  | '{' :: cs =>
    match cs.span (· != '}') with
    | (name, _ :: rest) => some (.named (String.ofList name), rest)
    | _ => none
  | c :: cs =>
    if c.isDigit then some (.arg (c.toNat - '0'.toNat), cs)
    else if isNameStart c then
      let (name, rest) := cs.span isNameChar
      some (.named (String.ofList (c :: name)), rest)
    else none
  | [] => none

/-- Reads the rest of a double-quoted part. -/
def readDouble : Nat → List Char → Option (Word × List Char)
  | 0, _ => none
  | _ + 1, [] => none
  | _ + 1, '"' :: cs => some ([], cs)
  | n + 1, '\\' :: c :: cs => do
    let (rest, after) ← readDouble n cs
    if c == '\n' then some (rest, after)
    else if "$`\"\\".toList.contains c then
      some (.text (String.singleton c) true :: rest, after)
    else some (.text (String.ofList ['\\', c]) true :: rest, after)
  | n + 1, '$' :: cs => do
    match readParam cs with
    | some (p, cs) =>
      let (rest, after) ← readDouble n cs
      some (.param p true :: rest, after)
    | none =>
      let (rest, after) ← readDouble n cs
      some (.text "$" true :: rest, after)
  | n + 1, c :: cs => do
    let (rest, after) ← readDouble n cs
    some (.text (String.singleton c) true :: rest, after)

/-- Reads a word. -/
def readWord : Nat → List Char → Option (Word × List Char)
  | 0, _ => none
  | _ + 1, [] => some ([], [])
  | n + 1, '\'' :: cs =>
    match cs.span (· != '\'') with
    | (text, _ :: cs) => do
      let (rest, after) ← readWord n cs
      some (.text (String.ofList text) true :: rest, after)
    | _ => none
  | n + 1, '"' :: cs => do
    let (inner, cs) ← readDouble (cs.length + 1) cs
    let (rest, after) ← readWord n cs
    let inner := if inner.isEmpty then [.text "" true] else inner
    some (inner ++ rest, after)
  | n + 1, '\\' :: c :: cs => do
    let (rest, after) ← readWord n cs
    some (if c == '\n' then rest else .text (String.singleton c) true :: rest, after)
  | n + 1, '$' :: cs => do
    match readParam cs with
    | some (p, cs) =>
      let (rest, after) ← readWord n cs
      some (.param p false :: rest, after)
    | none =>
      let (rest, after) ← readWord n cs
      some (.text "$" false :: rest, after)
  | n + 1, c :: cs =>
    if endsWord c then some ([], c :: cs)
    else do
      let (rest, after) ← readWord n cs
      some (.text (String.singleton c) false :: rest, after)

/-- Reads a redirection sign after the number of a stream. -/
def readRedirect : List Char → Option (String × List Char)
  | '>' :: '&' :: cs => some (">&", cs)
  | '<' :: '&' :: cs => some ("<&", cs)
  | '>' :: '>' :: cs => some (">>", cs)
  | '>' :: cs => some (">", cs)
  | '<' :: cs => some ("<", cs)
  | _ => none

/-- Reads tokens. Every round takes a character, so as many rounds as there are characters are
enough. -/
def tokens : Nat → List Char → Option (List Token)
  | 0, _ => none
  | _ + 1, [] => some []
  | n + 1, c :: cs =>
    if c == ' ' || c == '\t' then tokens n cs
    else if c == '#' then tokens n (cs.dropWhile (· != '\n'))
    else
      match c, cs with
      | '\n', _ => (tokens n cs).map (.sign ";" :: ·)
      | ';', _ => (tokens n cs).map (.sign ";" :: ·)
      | '(', _ => (tokens n cs).map (.sign "(" :: ·)
      | ')', _ => (tokens n cs).map (.sign ")" :: ·)
      | '&', '&' :: cs => (tokens n cs).map (.sign "&&" :: ·)
      | '|', '|' :: cs => (tokens n cs).map (.sign "||" :: ·)
      | '|', _ => (tokens n cs).map (.sign "|" :: ·)
      | '&', _ => none
      | _, _ =>
        match readRedirect (c :: cs) with
        | some (sign, cs) =>
          (tokens n cs).map (.redirect (if c == '<' then 0 else 1) sign :: ·)
        | none =>
          match c.isDigit, readRedirect cs with
          | true, some (sign, cs) =>
            (tokens n cs).map (.redirect (c.toNat - '0'.toNat) sign :: ·)
          | _, _ => do
            let (word, rest) ← readWord (cs.length + 2) (c :: cs)
            (tokens n rest).map (.word word :: ·)

/-- The tokens of a script. -/
def tokenize (script : String) : Option (List Token) :=
  let cs := script.toList
  tokens (cs.length + 1) cs

end LineShell.Script
