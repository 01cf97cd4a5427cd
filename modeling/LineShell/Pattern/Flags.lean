import LineShell.Pattern.Look

/-!
The flags that a pattern is read under, and what they make of single characters, classes and
conditions.

A pattern has to match whole characters. With `unicode` off it speaks of bytes, so everything that
could match a byte outside ASCII is refused then.
-/

namespace LineShell.Pattern

structure Flags where
  /-- Case is ignored. -/
  ignoreCase : Bool := false
  /-- The anchors `^` and `$` stand for line ends, not only for those of the text. -/
  multiLine : Bool := false
  /-- The dot matches a line feed too. -/
  dotAll : Bool := false
  /-- Classes know characters outside ASCII. -/
  unicode : Bool := true
  /-- A carriage return ends a line too. -/
  returns : Bool := false
  /-- Blanks and comments in the pattern do not count. -/
  loose : Bool := false
  deriving DecidableEq, Repr

namespace Flags

/-- Turns the flag of a letter on or off. The letter `U` chooses which of several matches is
preferred, so it has no effect on whether there is one. -/
def set (f : Flags) (letter : Char) (on : Bool) : Option Flags :=
  match letter with
  | 'i' => some { f with ignoreCase := on }
  | 'm' => some { f with multiLine := on }
  | 's' => some { f with dotAll := on }
  | 'u' => some { f with unicode := on }
  | 'R' => some { f with returns := on }
  | 'x' => some { f with loose := on }
  | 'U' => some f
  | _ => none

/-- The characters that count as the same if case is ignored. -/
def variants (f : Flags) : Char → List Char :=
  if f.unicode then Unicode.caseVariants else Unicode.asciiCaseVariants

/-- A set with the characters that differ in case only, if case is ignored. -/
def fold (f : Flags) (s : CharSet) : CharSet :=
  if f.ignoreCase then s.fold f.variants else s

/-- The characters that the character `c` of a pattern matches. -/
def literal (f : Flags) (c : Char) : CharSet :=
  if f.ignoreCase then
    let same := f.variants c
    ⟨fun d => same.contains d⟩
  else .single c

/-- A set or its complement. Complements hold characters outside ASCII. -/
def complIf (f : Flags) (negated : Bool) (s : CharSet) : Option CharSet :=
  if negated then if f.unicode then some s.compl else none else some s

/-- The characters that a dot matches. -/
def dot (f : Flags) : Option CharSet :=
  if !f.unicode then none
  else if f.dotAll then some .all
  else some ⟨fun c => c != '\n' && !(f.returns && c == '\r')⟩

def digit (f : Flags) : CharSet := if f.unicode then .digit else .asciiDigit

def space (f : Flags) : CharSet := if f.unicode then .space else .asciiSpace

def word (f : Flags) : CharSet := if f.unicode then .word else .asciiWord

/-- The condition that `^` stands for. -/
def caret (f : Flags) : Look := if f.multiLine then .lineStart f.returns else .textStart

/-- The condition that `$` stands for. -/
def dollar (f : Flags) : Look := if f.multiLine then .lineEnd f.returns else .textEnd

/-- The condition of an edge of a word. -/
def edge (f : Flags) (kind : WordEdge) : Look := .edge kind f.word

end Flags

end LineShell.Pattern
