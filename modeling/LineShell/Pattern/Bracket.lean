import LineShell.Pattern.Atom

/-!
Reading of bracketed classes, such as `[a-z_]`, `[^\d]` and `[\w--[aeiou]]`.

Classes may be nested, and `&&`, `--` and `~~` stand for intersection, difference and symmetric
difference. The three operators bind equally, from left to right, and weaker than writing items side
by side.
-/

namespace LineShell.Pattern

/-- A class that was read. -/
structure ClassPart where
  set : CharSet
  /-- How deep it is nested. -/
  depth : Nat := 0
  /-- The bytes that it takes in a machine with one state for each character. -/
  cost : Nat := rangeCost true

inductive ClassOp where
  | inter
  | diff
  | symmDiff
  deriving DecidableEq, Repr

def ClassOp.apply : ClassOp → CharSet → CharSet → CharSet
  | .inter => .inter
  | .diff => .diff
  | .symmDiff => .symmDiff

/-- A bracket that is still open. -/
structure Bracket where
  negated : Bool := false
  /-- What stands before the last operator. -/
  left : Option (ClassOp × ClassPart) := none
  /-- The items after the last operator, taken together. -/
  items : ClassPart := { set := .empty, cost := 0 }
  /-- How many items these are. -/
  count : Nat := 0

namespace Bracket

/-- Adds an item. -/
def add (b : Bracket) (item : ClassPart) : Bracket :=
  { b with
    items :=
      { set := b.items.set.union item.set
        depth := max b.items.depth item.depth
        cost := b.items.cost + item.cost }
    count := b.count + 1 }

/-- The items after the last operator as one part. Several items are one level deeper. -/
def joined (b : Bracket) : ClassPart :=
  if b.count ≤ 1 then b.items else { b.items with depth := b.items.depth + 1 }

/-- The whole content so far. If case is ignored, it is so in the operands already. -/
def content (f : Flags) (b : Bracket) : ClassPart :=
  match b.left with
  | none => b.joined
  | some (op, left) =>
    { set := op.apply (f.fold left.set) (f.fold b.joined.set)
      depth := max left.depth b.joined.depth + 1
      cost := left.cost + b.joined.cost }

/-- Reads an operator. -/
def operator (f : Flags) (b : Bracket) (op : ClassOp) : Bracket :=
  { negated := b.negated, left := some (op, b.content f) }

/-- The class that the closing bracket completes. -/
def close (f : Flags) (b : Bracket) : Option ClassPart := do
  let content := b.content f
  let set ← f.complIf b.negated (f.fold content.set)
  some
    { set
      depth := content.depth + 1
      cost := content.cost + complCost b.negated }

end Bracket

/-- Takes dashes, dropping after each what does not count. -/
def Flags.dashes (f : Flags) (cs : List Char) : Nat × List Char :=
  let (taken, rest) := f.collect (· == '-') cs.length cs
  (taken.length, rest)

/-- Reads what follows an opening bracket: a caret that negates, then dashes that stand for
themselves, or else a closing bracket that stands for itself. -/
def Flags.openBracket (f : Flags) (cs : List Char) : Bracket × List Char :=
  let cs := f.skip cs
  let (negated, cs) := match cs with
    | '^' :: cs => (true, f.skip cs)
    | _ => (false, cs)
  let bracket : Bracket := { negated }
  match f.dashes cs with
  | (0, ']' :: cs) => (bracket.add { set := f.literal ']' }, f.skip cs)
  | (n, cs) => ((List.replicate n ()).foldl (fun b _ => b.add { set := .single '-' }) bracket, cs)

/-- Reads a class such as `[:alpha:]` or `[:^alpha:]`. Anything else that starts like one is
left to be read as a nested bracket. -/
def asciiClass? (cs : List Char) : Option (Bool × CharSet × List Char) :=
  match cs with
  | '[' :: ':' :: cs =>
    let (negated, cs) := match cs with
      | '^' :: cs => (true, cs)
      | _ => (false, cs)
    match cs.span (· != ':') with
    | (name, ':' :: ']' :: rest) =>
      (CharSet.ascii? (String.ofList name)).map fun s => (negated, s, rest)
    | _ => none
  | _ => none

/-- Reads a character or an escape of a class. -/
def Flags.classAtom (f : Flags) (cs : List Char) : Option (Atom × List Char) :=
  match cs with
  | [] => none
  | '\\' :: cs => f.escape cs
  | c :: cs => some (.literal c false, cs)

/-- A character as a member of a class. Without `unicode` it has to belong to ASCII. -/
def Flags.classLiteral? (f : Flags) : Atom → Option Char
  | .literal c _ => if f.unicode || c.toNat < 0x80 then some c else none
  | _ => none

/-- An escape or a character as an item of a class. -/
def Flags.classItem? (f : Flags) : Atom → Option ClassPart
  | .set set cost => some { set, cost }
  | .look _ => none
  | atom => (f.classLiteral? atom).map fun c =>
    { set := .single c, cost := rangeCost (c.toNat < 0x80) }

/-- The first character that counts. The mark of a comment alone is passed over. -/
def Flags.peek (f : Flags) (cs : List Char) : Option Char :=
  if f.loose then
    match cs.dropWhile Text.isBlank with
    | '#' :: cs => (cs.dropWhile Text.isBlank).head?
    | cs => cs.head?
  else cs.head?

/-- Reads an item or a range of a class. A dash before the closing bracket or before another dash
does not make a range. -/
def Flags.classRange (f : Flags) (cs : List Char) : Option (ClassPart × List Char) := do
  let (first, cs) ← f.classAtom cs
  match f.skip cs with
  | [] => none
  | '-' :: cs =>
    if f.peek cs = some ']' || f.peek cs = some '-' then
      some (← f.classItem? first, '-' :: cs)
    else
      let (last, rest) ← f.classAtom (f.skip cs)
      let low ← f.classLiteral? first
      let high ← f.classLiteral? last
      if low ≤ high then
        some ({ set := .range low high, cost := rangeCost (high.toNat < 0x80) }, rest)
      else none
  | cs => some (← f.classItem? first, cs)

/-- Reads the rest of the bracket `b`, which stands inside the brackets `outer`, innermost first.
Every round takes a character, so as many rounds as there are characters are enough. -/
def Flags.bracketRest (f : Flags) (b : Bracket) (outer : List Bracket) :
    Nat → List Char → Option (ClassPart × List Char)
  | 0, _ => none
  | n + 1, cs =>
    match f.skip cs with
    | [] => none
    | '[' :: cs =>
      match asciiClass? ('[' :: cs) with
      | some (negated, set, rest) => do
        let set ← f.complIf negated (f.fold set)
        f.bracketRest (b.add { set, cost := rangeCost true + complCost negated }) outer n rest
      | none =>
        let (inner, rest) := f.openBracket cs
        f.bracketRest inner (b :: outer) n rest
    | ']' :: rest => do
      let part ← b.close f
      match outer with
      | [] => some (part, rest)
      | parent :: outer => f.bracketRest (parent.add part) outer n rest
    | '&' :: '&' :: rest => f.bracketRest (b.operator f .inter) outer n rest
    | '-' :: '-' :: rest => f.bracketRest (b.operator f .diff) outer n rest
    | '~' :: '~' :: rest => f.bracketRest (b.operator f .symmDiff) outer n rest
    | cs => do
      let (item, rest) ← f.classRange cs
      f.bracketRest (b.add item) outer n rest

/-- Reads a class after its opening bracket. -/
def Flags.bracket (f : Flags) (cs : List Char) : Option (ClassPart × List Char) :=
  let (b, rest) := f.openBracket cs
  f.bracketRest b [] (rest.length + 1) rest

end LineShell.Pattern
