import LineShell.Builtin.Source

/-!
The built-in command `grep`: the lines of a text that match a pattern, and lines that follow them.

The lines are marked in a row of flags, one window for each match, and the marked ones are put out.
-/

namespace LineShell.Builtin

open Options

/-- The settings of `grep`. -/
structure Grep where
  pattern : String := ""
  file : Option String := none
  /-- A match has to be a whole word. -/
  wholeWords : Bool := false
  ignoreCase : Bool := false
  /-- How many lines after each matching line are printed too. -/
  afterContext : Nat := 0
  deriving DecidableEq, Repr

namespace Grep

def interface : Interface Grep where
  name := "grep"
  about := "Print lines matching a pattern."
  flags := [
    { long := "word-regexp"
      short := some 'w'
      about := "match only whole words (using non-word characters as boundaries)"
      effect := .switch fun g => { g with wholeWords := true } },
    { long := "ignore-case"
      short := some 'i'
      about := "ignore case distinctions"
      effect := .switch fun g => { g with ignoreCase := true } },
    { long := "after-context"
      short := some 'A'
      about := "print NUM lines of trailing context after matching lines"
      effect := .value fun text g =>
        match Text.readNumber text with
        | .ok n => .ok { g with afterContext := n }
        | .error e => .error e.message }]
  operands := .each [
    { name := "pattern"
      about := "the pattern to search for (a regular expression)"
      required := true
      store := fun text g => { g with pattern := text } },
    { name := "file"
      about := "file to search; piped input is used when omitted"
      required := false
      store := fun text g => { g with file := some text } }]

/-- The pattern to search for. Whole words are asked for by writing word boundaries and parentheses
around the text of the pattern. -/
def fullPattern (g : Grep) : String :=
  if g.wholeWords then "\\b(" ++ g.pattern ++ ")\\b" else g.pattern

end Grep

variable {α : Type}

/-- Where the window of the element at `i` ends in a row of the given length: behind `after` further
elements, or with the row. -/
def windowEnd (o : Overflow) (after i length : Nat) : Except Fault Nat :=
  match o.add (machineBound length) i after with
  | .error e => .error e
  | .ok last => (o.add (machineBound length) last 1).map fun stop => min stop length

/-- Sets the flags in the windows of the elements that match, the first of which stands at `i`. -/
def setWindows (o : Overflow) (isMatch : α → Bool) (after i : Nat) (flags : List Bool) :
    List α → Except Fault (List Bool)
  | [] => .ok flags
  | x :: xs =>
    if isMatch x then
      match windowEnd o after i flags.length with
      | .error e => .error e
      | .ok stop =>
        match setSlice flags i stop with
        | .error e => .error e
        | .ok flags => setWindows o isMatch after (i + 1) flags xs
    else setWindows o isMatch after (i + 1) flags xs

/-- The marked elements, with `separator` between two that do not stand next to each other. The
separator is due before the next marked element if one was marked before (`started`) and elements
were left out since (`gap`). -/
def marked (separator : Option α) (started gap : Bool) : List (α × Bool) → List α
  | [] => []
  | (_, false) :: xs => marked separator started true xs
  | (x, true) :: xs =>
    (if started && gap then separator.toList else []) ++ x :: marked separator true false xs

/-- The lines that match and up to `after` lines after each, with a line `--` between groups that
are apart if lines after a match are asked for. -/
def select (o : Overflow) (isMatch : String → Bool) (after : Nat) (lines : List String) :
    Except Fault (List String) :=
  (setWindows o isMatch after 0 (List.replicate lines.length false) lines).map fun flags =>
    marked (if after = 0 then none else some "--") false false (lines.zip flags)

variable {σ : Type} [System σ]

/-- Runs `grep` with the given settings. A pattern that is not valid is reported before the text is
looked for. -/
def Grep.execute (world : σ) (input : Option String) (g : Grep) : Except CommandError String :=
  match (System.build σ).compile g.ignoreCase g.fullPattern with
  | none => .error (.invalidPattern g.fullPattern)
  | some isMatch =>
    match source "grep" world g.file input with
    | .error e => .error e
    | .ok text =>
      match select (System.build σ).overflow isMatch g.afterContext (Text.lines text) with
      | .error fault => .error (.fault fault)
      | .ok lines => .ok (Text.unlines lines)

/-- Prints the lines of its text that match. -/
def grep (world : σ) (args : List String) (input : Option String) : Except CommandError String :=
  run Grep.interface {} args (Grep.execute world input)

end LineShell.Builtin
