import LineShell.Scope

/-!
Expansion of command lines into words: quotes, variables and the splitting at spaces.

A logical command may run over several physical lines, because a quote that is open at the end of a
line goes on in the next one. The scanner keeps nothing between lines; all it has found so far is a
`Progress`, which is handed back to it with the next line.
-/

namespace LineShell

/-- The quoting in force at a character. -/
inductive Quoting where
  /-- Outside quotes: spaces end words. -/
  | bare
  /-- Inside single quotes: every character stands for itself. -/
  | single
  /-- Inside double quotes: spaces stand for themselves, variables are replaced. -/
  | double
  deriving DecidableEq, Repr

/-- What has been read of a logical command. -/
structure Progress where
  /-- The quoting at the end of the last line. -/
  quoting : Quoting := .bare
  /-- The text of the word being built. -/
  pending : String := ""
  /-- The finished words. -/
  words : List String := []
  deriving DecidableEq, Repr

/-- A dollar sign that no bound name follows. -/
structure ExpansionError where
  /-- How many characters of its line stand before the dollar sign. -/
  position : Nat
  deriving DecidableEq, Repr

def ExpansionError.message (e : ExpansionError) : String :=
  "Error at position " ++ toString e.position

/-- The longest bound name that starts with `name` and goes on with one or more of the given
characters. A space ends the search. -/
def Scope.longestName (scope : Scope) (name : String) : List Char → Option String
  | [] => none
  | c :: cs =>
    if c = ' ' then none
    else
      let name := name.push c
      match scope.longestName name cs with
      | some longer => some longer
      | none => if scope.contains name then some name else none

namespace Progress

/-- No quote is open, so the logical command has been read in full. -/
def isComplete (p : Progress) : Bool := p.quoting = .bare

/-- Finishes the word being built. A word without characters is no word. -/
def endWord (p : Progress) : Progress :=
  if p.pending.isEmpty then p else { p with pending := "", words := p.words ++ [p.pending] }

/-- Adds text to the word being built. -/
def append (p : Progress) (text : String) : Progress := { p with pending := p.pending ++ text }

/-- Ends a line: outside quotes it ends a word, inside quotes it is part of the word. -/
def endLine (p : Progress) : Progress :=
  match p.quoting with
  | .bare => p.endWord
  | _ => p.append "\n"

/-- What a character does. -/
inductive Action where
  | openQuote (quoting : Quoting)
  | endWord
  | reference
  | literal
  deriving DecidableEq, Repr

/-- The action of a character under the quoting in force. -/
def action : Quoting → Char → Action
  | .bare, ' ' => .endWord
  | .bare, '\'' => .openQuote .single
  | .single, '\'' => .openQuote .bare
  | .bare, '"' => .openQuote .double
  | .double, '"' => .openQuote .bare
  | .single, _ => .literal
  | _, '$' => .reference
  | _, _ => .literal

/-- Scans the rest of a line, whose first character stands at `position`. -/
def scan (scope : Scope) (position : Nat) (p : Progress) :
    List Char → Except ExpansionError Progress
  | [] => .ok p.endLine
  | c :: cs =>
    match action p.quoting c with
    | .openQuote quoting => scan scope (position + 1) { p with quoting } cs
    | .endWord => scan scope (position + 1) p.endWord cs
    | .literal => scan scope (position + 1) (p.append (String.singleton c)) cs
    | .reference =>
      match scope.longestName "" cs with
      | none => .error ⟨position⟩
      | some name =>
        scan scope (position + 1 + name.length) (p.append ((scope.get? name).getD ""))
          (cs.drop name.length)
termination_by cs => cs.length

/-- Scans one more line of a logical command. -/
def feed (scope : Scope) (p : Progress) (line : String) : Except ExpansionError Progress :=
  p.scan scope 0 line.toList

end Progress

/-- Scans the first line of a logical command. -/
def expand (scope : Scope) (line : String) : Except ExpansionError Progress :=
  Progress.feed scope {} line

end LineShell
