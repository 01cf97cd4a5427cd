import LineShell.Pattern.Bracket
import LineShell.Pattern.Expr

/-!
Reading of patterns.

A pattern consists of alternatives, an alternative of items that follow each other, and an item of
a character, a class, a condition or a group in parentheses, perhaps repeated. The reader goes
through the pattern once and keeps a stack of the groups that are open.

A pattern is invalid if it is malformed, if it is nested too deep, or if it would take too much
memory in a machine with one state for each character, the repetitions written out.

The shell is written for any library for patterns (`Build.compile`). These patterns are the library
that it runs with here. They know fewer names of properties than such libraries do, and only count
the memory roughly. What is proved of the shell holds with any library.
-/

namespace LineShell.Pattern

/-- A part of a pattern that was read. -/
structure Part where
  expr : Expr CharSet Look
  /-- How deep it is nested. -/
  depth : Nat := 0
  /-- The bytes that it takes in a machine with one state for each character. -/
  cost : Nat
  /-- It never matches a character. -/
  isEmpty : Bool := false

/-- The greatest depth of nesting. -/
def maxDepth : Nat := 250

/-- The bytes that the machine of a pattern may take. -/
def maxCost : Nat := 10 * 1024 * 1024

/-- The bytes of one state. -/
def stateCost : Nat := 32

namespace Part

/-- The part that matches only between characters and everywhere there. -/
def nothing : Part := { expr := .empty, cost := stateCost, isEmpty := true }

/-- A class, with the bytes of its ranges. -/
def ofSet (set : CharSet) (cost : Nat) : Part := { expr := .step set, cost := 2 * stateCost + cost }

def ofLook (condition : Look) : Part :=
  { expr := .look condition, cost := stateCost, isEmpty := true }

def ofLiteral (f : Flags) (c : Char) : Part :=
  { expr := .step (f.literal c), cost := stateCost * (String.utf8EncodeChar c).length }

/-- One part after the other, on the same level. -/
def append (p q : Part) : Part :=
  { expr := .seq p.expr q.expr
    depth := max p.depth q.depth
    cost := p.cost + q.cost
    isEmpty := p.isEmpty && q.isEmpty }

/-- Either of two parts, on the same level. -/
def either (p q : Part) : Part :=
  { expr := .alt p.expr q.expr
    depth := max p.depth q.depth
    cost := p.cost + q.cost + stateCost
    isEmpty := p.isEmpty && q.isEmpty }

/-- A part one level deeper. -/
def deeper (p : Part) : Part := { p with depth := p.depth + 1 }

/-- A group. -/
def group (p : Part) : Part := { p.deeper with cost := p.cost + 2 * stateCost }

/-- A repeated part. Repeating what matches no character adds nothing after the first time. -/
def repeated (p : Part) (least : Nat) (most : Option Nat) : Part :=
  let copies := most.getD (max least 1)
  let copies := if p.isEmpty then min copies 1 else copies
  { p.deeper with
    expr := p.expr.again least most
    cost := p.cost * copies + stateCost * (copies - least + 1) }

end Part

/-- What has been read of a group, or of the whole pattern. -/
structure Level where
  /-- The alternatives that are complete, last first. -/
  alternatives : List Part := []
  /-- The items of the current alternative, last first; a change of flags is an item without a
  part. -/
  items : List (Option Part) := []

namespace Level

/-- Adds an item to the current alternative. -/
def add (l : Level) (p : Part) : Level := { l with items := some p :: l.items }

/-- The current alternative. Several items are one level deeper than each. -/
def alternative (l : Level) : Part :=
  match l.items.reverse.filterMap id with
  | [] => .nothing
  | p :: ps =>
    let joined := ps.foldl .append p
    if l.items.length ≤ 1 then joined else joined.deeper

/-- Ends the current alternative. -/
def nextAlternative (l : Level) : Level :=
  { alternatives := l.alternative :: l.alternatives }

/-- All alternatives. Several of them are one level deeper than each. -/
def content (l : Level) : Part :=
  match l.alternatives.reverse with
  | [] => l.alternative
  | p :: ps => ((ps ++ [l.alternative]).foldl .either p).deeper

/-- Repeats the last item, which may not be a change of flags. -/
def repeatLast (l : Level) (least : Nat) (most : Option Nat) : Option Level :=
  match l.items with
  | some p :: items => some { l with items := some (p.repeated least most) :: items }
  | _ => none

end Level

/-- Where the reader stands. -/
structure State where
  flags : Flags
  /-- The innermost group. -/
  level : Level := {}
  /-- The groups around it, innermost first, each with its flags. -/
  outer : List (Level × Flags) := []
  /-- The names of groups. -/
  names : List String := []

/-- Takes the question mark after a repetition, which only chooses between matches. -/
def dropLazy : List Char → List Char
  | '?' :: cs => cs
  | cs => cs

/-- The greatest number of repetitions that can be written. -/
def maxRepeat : Nat := UInt32.size - 1

/-- Reads a number of repetitions. Blanks may stand around it. -/
def Flags.repeatNumber (f : Flags) (cs : List Char) : Option (Nat × List Char) :=
  let (digits, rest) := f.collect Char.isDigit cs.length (cs.dropWhile Text.isBlank)
  let n := digits.foldl (fun n c => n * 10 + (c.toNat - '0'.toNat)) 0
  if digits.isEmpty || n > maxRepeat then none
  else some (n, f.skip (rest.dropWhile Text.isBlank))

/-- Reads what follows the opening brace of a repetition: `{n}`, `{n,}` or `{n,m}`. -/
def Flags.repeatRange (f : Flags) (cs : List Char) : Option (Nat × Option Nat × List Char) := do
  let (least, cs) ← f.repeatNumber (f.skip cs)
  match cs with
  | '}' :: rest => some (least, some least, dropLazy (f.skip rest))
  | ',' :: cs =>
    match f.skip cs with
    | '}' :: rest => some (least, none, dropLazy (f.skip rest))
    | cs =>
      let (most, cs) ← f.repeatNumber cs
      match cs with
      | '}' :: rest =>
        if least ≤ most then some (least, some most, dropLazy (f.skip rest)) else none
      | _ => none
  | _ => none

/-- Reads flags up to the colon or parenthesis after them. No flag may be given twice, and a minus
sign has to be followed by a flag. The result tells whether it was a parenthesis. -/
def Flags.change (f : Flags) (on : Bool) (seen : List Char) :
    List Char → Option (Flags × Bool × List Char)
  | [] => none
  | c :: cs =>
    if c = ':' || c = ')' then
      if seen.head? = some '-' || (c = ')' && seen.isEmpty) then none
      else some (f, c = ')', cs)
    else if seen.contains c then none
    else if c = '-' then f.change false (c :: seen) cs
    else
      match f.set c on with
      | some f => f.change on (c :: seen) cs
      | none => none

/-- Reads the name of a group up to the angle bracket after it. -/
def groupName (cs : List Char) : Option (String × List Char) :=
  match cs.span (· != '>') with
  | (c :: name, _ :: rest) =>
    let isFirst := c == '_' || Unicode.isAlphabetic c
    let isNext (c : Char) : Bool :=
      c == '_' || c == '.' || c == '[' || c == ']' || Unicode.isAlphanumeric c
    if isFirst && name.all isNext then some (String.ofList (c :: name), rest) else none
  | _ => none

namespace State

/-- Opens a group that is read under the given flags. -/
def openGroup (s : State) (flags : Flags) : State :=
  { s with flags, level := {}, outer := (s.level, s.flags) :: s.outer }

/-- Opens a group with a name that no other group has. -/
def openNamed (s : State) (cs : List Char) : Option (State × List Char) := do
  let (name, rest) ← groupName cs
  if s.names.contains name then none
  else some ({ s.openGroup s.flags with names := name :: s.names }, rest)

/-- Reads what follows an opening parenthesis. Looking ahead and behind is not supported. -/
def opening (s : State) (cs : List Char) : Option (State × List Char) :=
  match s.flags.skip cs with
  | '?' :: '=' :: _ => none
  | '?' :: '!' :: _ => none
  | '?' :: '<' :: '=' :: _ => none
  | '?' :: '<' :: '!' :: _ => none
  | '?' :: 'P' :: '<' :: cs => s.openNamed cs
  | '?' :: '<' :: cs => s.openNamed cs
  | '?' :: cs => do
    let (flags, isDirective, rest) ← s.flags.change true [] cs
    if isDirective then
      some ({ s with flags, level := { s.level with items := none :: s.level.items } }, rest)
    else some (s.openGroup flags, rest)
  | cs => some (s.openGroup s.flags, cs)

/-- Closes a group. -/
def closing (s : State) : Option State :=
  match s.outer with
  | [] => none
  | (level, flags) :: outer =>
    some { s with flags, outer, level := level.add s.level.content.group }

/-- Adds an item. -/
def add (s : State) (p : Part) : State := { s with level := s.level.add p }

/-- Repeats the last item. -/
def repeatLast (s : State) (least : Nat) (most : Option Nat) : Option State :=
  (s.level.repeatLast least most).map fun level => { s with level }

/-- Adds a character, a class or a condition. -/
def addAtom (s : State) : Atom → Option State
  | .literal c isByte =>
    if s.flags.allows c isByte then some (s.add (.ofLiteral s.flags c)) else none
  | .set set cost => some (s.add (.ofSet set cost))
  | .look condition => some (s.add (.ofLook condition))

/-- Reads one item or one sign. -/
def step (s : State) (c : Char) (cs : List Char) : Option (State × List Char) :=
  match c with
  | '(' => s.opening cs
  | ')' => s.closing.map (·, cs)
  | '|' => some ({ s with level := s.level.nextAlternative }, cs)
  | '[' => do
    let (part, rest) ← s.flags.bracket cs
    some (s.add { Part.ofSet part.set part.cost with depth := part.depth }, rest)
  | '?' => (s.repeatLast 0 (some 1)).map (·, dropLazy cs)
  | '*' => (s.repeatLast 0 none).map (·, dropLazy cs)
  | '+' => (s.repeatLast 1 none).map (·, dropLazy cs)
  | '{' => do
    let (least, most, rest) ← s.flags.repeatRange cs
    (s.repeatLast least most).map (·, rest)
  | '\\' => do
    let (atom, rest) ← s.flags.escape cs
    (s.addAtom atom).map (·, rest)
  | '.' => do
    let set ← s.flags.dot
    some (s.add (.ofSet set (complCost true)), cs)
  | '^' => some (s.add (.ofLook s.flags.caret), cs)
  | '$' => some (s.add (.ofLook s.flags.dollar), cs)
  | c => (s.addAtom (.literal c false)).map (·, cs)

/-- Reads the rest of a pattern. Every round takes a character, so as many rounds as there are
characters are enough. -/
def readAll (s : State) : Nat → List Char → Option State
  | 0, _ => none
  | n + 1, cs =>
    match s.flags.skip cs with
    | [] => some s
    | c :: cs => do
      let (s, rest) ← s.step c cs
      s.readAll n rest

end State

/-- The expression of a pattern, if the pattern is valid. -/
def compile (ignoreCase : Bool) (pattern : String) : Option (Expr CharSet Look) := do
  let cs := pattern.toList
  let s ← State.readAll { flags := { ignoreCase } } (cs.length + 1) cs
  let whole := s.level.content
  if s.outer.isEmpty && whole.depth ≤ maxDepth && whole.cost + 8 * stateCost ≤ maxCost then
    some whole.expr
  else none

end LineShell.Pattern
