import LineShell.Pattern.Flags

/-!
Reading of the smallest parts of a pattern: characters, escapes and named classes.

A reader takes the characters that are left and gives what it read and the characters after it, or
nothing if the pattern is invalid. Where it has to read on an unknown number of characters with
blanks between them, its first argument bounds their number; the length of the rest is always
enough.
-/

namespace LineShell.Pattern

/-- Drops blanks and comments, which run from `#` to the end of the line. -/
def dropLoose (inComment : Bool) : List Char → List Char
  | [] => []
  | c :: cs =>
    if inComment then dropLoose (c != '\n') cs
    else if Text.isBlank c then dropLoose false cs
    else if c = '#' then dropLoose true cs
    else c :: cs

/-- Drops what does not count at the front of the rest. -/
def Flags.skip (f : Flags) (cs : List Char) : List Char :=
  if f.loose then dropLoose false cs else cs

/-- Takes characters while `p` holds, dropping after each what does not count. -/
def Flags.collect (f : Flags) (p : Char → Bool) : Nat → List Char → List Char × List Char
  | 0, cs => ([], cs)
  | _ + 1, [] => ([], [])
  | n + 1, c :: cs =>
    if p c then
      let (taken, rest) := f.collect p n (f.skip cs)
      (c :: taken, rest)
    else ([], c :: cs)

/-- A part of a pattern that is not composed of others. -/
inductive Atom where
  /-- A character. It is a byte if it was written as two hexadecimal digits. -/
  | literal (c : Char) (isByte : Bool)
  /-- A class, with the bytes that it takes in a machine with one state for each character. -/
  | set (s : CharSet) (cost : Nat)
  | look (condition : Look)

/-- The value of a hexadecimal digit. -/
def hexValue? (c : Char) : Option Nat :=
  if c.isDigit then some (c.toNat - '0'.toNat)
  else if 'a' ≤ c && c ≤ 'f' then some (c.toNat - 'a'.toNat + 10)
  else if 'A' ≤ c && c ≤ 'F' then some (c.toNat - 'A'.toNat + 10)
  else none

/-- The character with the number that hexadecimal digits write. -/
def charOfHex? (digits : List Char) : Option Char := do
  let values ← digits.mapM hexValue?
  let n := values.foldl (fun n d => n * 16 + d) 0
  if digits.isEmpty then none
  else if n.isValidChar then some (Char.ofNat n)
  else none

/-- Reads what follows the letter of a hexadecimal escape: a number in braces, or `width`
digits. -/
def Flags.hexEscape (f : Flags) (width : Nat) (cs : List Char) : Option (Atom × List Char) :=
  match f.skip cs with
  | '{' :: cs => do
    let (digits, rest) := f.collect (· != '}') cs.length (f.skip cs)
    let c ← charOfHex? digits
    match rest with
    | '}' :: rest => some (.literal c false, f.skip rest)
    | _ => none
  | cs => do
    let (digits, rest) := f.collect (fun c => (hexValue? c).isSome) width cs
    if digits.length = width then
      let c ← charOfHex? digits
      some (.literal c (width == 2), rest)
    else none

/-- The text before and after the first place where `sep` stands. -/
def splitFirst (sep : List Char) : List Char → Option (List Char × List Char)
  | [] => none
  | c :: cs =>
    if sep.isPrefixOf (c :: cs) then some ([], (c :: cs).drop sep.length)
    else (splitFirst sep cs).map fun (before, after) => (c :: before, after)

/-- The property of a name in braces: `name`, or a name and a value with `!=`, `:` or `=` between
them. -/
def namedProperty? (name : List Char) : Option CharSet :=
  let value (before after : List Char) : Option (Char → Bool) :=
    Unicode.propertyValue? (String.ofList before) (String.ofList after)
  match splitFirst ['!', '='] name with
  | some (before, after) => (value before after).map fun p => ⟨fun c => !p c⟩
  | none =>
    match (splitFirst [':'] name).or (splitFirst ['='] name) with
    | some (before, after) => (value before after).map (⟨·⟩)
    | none => (Unicode.property? (String.ofList name)).map (⟨·⟩)

/-- The bytes of a range of characters: ASCII takes one entry of a state, all others states of
their own. -/
def rangeCost (isAscii : Bool) : Nat := if isAscii then 8 else 64

/-- The bytes that a complement takes beyond those of the set. -/
def complCost (negated : Bool) : Nat := if negated then 960 else 0

/-- The bytes of a class with the given number of ranges of characters. -/
def Flags.classCost (f : Flags) (negated : Bool) (ranges : Nat) : Nat :=
  if f.unicode then rangeCost false * ranges + complCost negated else rangeCost true * 4

/-- Reads what follows `\p` or `\P`: one letter, or a name in braces. -/
def Flags.propertyEscape (f : Flags) (negated : Bool) (cs : List Char) :
    Option (Atom × List Char) := do
  let finish (s : CharSet) (rest : List Char) : Option (Atom × List Char) := do
    let s ← if f.unicode then f.complIf negated (f.fold s) else none
    some (.set s (f.classCost negated 650), rest)
  match f.skip cs with
  | [] => none
  | '\\' :: _ => none
  | '{' :: cs =>
    let (name, rest) := f.collect (· != '}') cs.length (f.skip cs)
    match rest with
    | '}' :: rest => finish (← namedProperty? name) rest
    | _ => none
  | c :: cs => finish (← namedProperty? [c]) (f.skip cs)

/-- The condition that a name in braces after `\b` stands for. -/
def edgeNamed? (name : List Char) : Option WordEdge :=
  match String.ofList name with
  | "start" => some .start
  | "end" => some .finish
  | "start-half" => some .startHalf
  | "end-half" => some .finishHalf
  | _ => none

/-- Reads what follows `\b`. Braces with a letter or a dash at their front hold a name; any others
are a repetition, which is not read here. -/
def Flags.boundaryEscape (f : Flags) (cs : List Char) : Option (Atom × List Char) :=
  let isNameChar (c : Char) : Bool := c.isAlpha || c == '-'
  match cs with
  | '{' :: inner =>
    match f.skip inner with
    | [] => none
    | c :: _ =>
      if isNameChar c then do
        let (name, rest) := f.collect isNameChar inner.length (f.skip inner)
        match rest with
        | '}' :: rest => some (.look (f.edge (← edgeNamed? name)), rest)
        | _ => none
      else some (.look (f.edge .boundary), cs)
  | _ => some (.look (f.edge .boundary), cs)

/-- The class of a letter after a backslash, which has the given number of ranges. -/
def Flags.classEscape (f : Flags) (negated : Bool) (s : CharSet) (ranges : Nat)
    (rest : List Char) : Option (Atom × List Char) := do
  let s ← f.complIf negated s
  some (.set s (f.classCost negated ranges), rest)

/-- Characters that may be escaped without need: those of ASCII that are neither letters nor digits
and have no meaning after a backslash. -/
def isEscapable (c : Char) : Bool :=
  c.toNat < 0x80 && !c.isAlphanum && c != '<' && c != '>'

/-- Reads what follows a backslash. -/
def Flags.escape (f : Flags) (cs : List Char) : Option (Atom × List Char) :=
  match cs with
  | [] => none
  | 'x' :: cs => f.hexEscape 2 cs
  | 'u' :: cs => f.hexEscape 4 cs
  | 'U' :: cs => f.hexEscape 8 cs
  | 'p' :: cs => f.propertyEscape false cs
  | 'P' :: cs => f.propertyEscape true cs
  | 'd' :: cs => f.classEscape false f.digit 71 cs
  | 'D' :: cs => f.classEscape true f.digit 71 cs
  | 's' :: cs => f.classEscape false f.space 10 cs
  | 'S' :: cs => f.classEscape true f.space 10 cs
  | 'w' :: cs => f.classEscape false f.word 792 cs
  | 'W' :: cs => f.classEscape true f.word 792 cs
  | 'a' :: cs => some (.literal '\x07' false, cs)
  | 'f' :: cs => some (.literal '\x0C' false, cs)
  | 't' :: cs => some (.literal '\t' false, cs)
  | 'n' :: cs => some (.literal '\n' false, cs)
  | 'r' :: cs => some (.literal '\r' false, cs)
  | 'v' :: cs => some (.literal '\x0B' false, cs)
  | 'A' :: cs => some (.look .textStart, cs)
  | 'z' :: cs => some (.look .textEnd, cs)
  | 'b' :: cs => f.boundaryEscape cs
  | 'B' :: cs => some (.look (f.edge .inside), cs)
  | '<' :: cs => some (.look (f.edge .start), cs)
  | '>' :: cs => some (.look (f.edge .finish), cs)
  | c :: cs => if isEscapable c then some (.literal c false, cs) else none

/-- Whether a character may be written as it was: a byte outside ASCII is no character. -/
def Flags.allows (f : Flags) (c : Char) (isByte : Bool) : Bool :=
  f.unicode || !isByte || c.toNat < 0x80

end LineShell.Pattern
