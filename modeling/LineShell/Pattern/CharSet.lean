import LineShell.Unicode.CaseFold
import LineShell.Unicode.Property

/-!
Sets of characters, given by their membership test.
-/

namespace LineShell.Pattern

/-- A set of characters. -/
structure CharSet where
  has : Char → Bool

namespace CharSet

/-- No character. -/
def empty : CharSet := ⟨fun _ => false⟩

/-- Every character. -/
def all : CharSet := ⟨fun _ => true⟩

/-- One character. -/
def single (c : Char) : CharSet := ⟨(· == c)⟩

/-- The characters from `first` to `last`. -/
def range (first last : Char) : CharSet := ⟨fun c => first ≤ c && c ≤ last⟩

def union (s t : CharSet) : CharSet := ⟨fun c => s.has c || t.has c⟩

def inter (s t : CharSet) : CharSet := ⟨fun c => s.has c && t.has c⟩

def diff (s t : CharSet) : CharSet := ⟨fun c => s.has c && !t.has c⟩

/-- The characters of exactly one of two sets. -/
def symmDiff (s t : CharSet) : CharSet := ⟨fun c => s.has c != t.has c⟩

def compl (s : CharSet) : CharSet := ⟨fun c => !s.has c⟩

/-- The characters that differ in case only from one in the set. -/
def fold (variants : Char → List Char) (s : CharSet) : CharSet :=
  ⟨fun c => (variants c).any s.has⟩

/-- Digits of any script. -/
def digit : CharSet := ⟨Unicode.isDecimalDigit⟩

/-- Blanks. -/
def space : CharSet := ⟨Text.isBlank⟩

/-- Word characters of any script. -/
def word : CharSet := ⟨Unicode.isWordChar⟩

/-- The digits of ASCII. -/
def asciiDigit : CharSet := range '0' '9'

/-- The blanks of ASCII. -/
def asciiSpace : CharSet := ⟨fun c => c == ' ' || ('\t' ≤ c && c ≤ '\r')⟩

/-- The word characters of ASCII. -/
def asciiWord : CharSet := ⟨fun c => c.isAlphanum || c == '_'⟩

/-- The classes of ASCII characters that are written `[:name:]`. -/
def ascii? (name : String) : Option CharSet :=
  match name with
  | "alnum" => some ⟨Char.isAlphanum⟩
  | "alpha" => some ⟨Char.isAlpha⟩
  | "ascii" => some (range '\x00' '\x7F')
  | "blank" => some ⟨fun c => c == ' ' || c == '\t'⟩
  | "cntrl" => some ⟨fun c => c ≤ '\x1F' || c == '\x7F'⟩
  | "digit" => some asciiDigit
  | "graph" => some (range '!' '~')
  | "lower" => some (range 'a' 'z')
  | "print" => some (range ' ' '~')
  | "punct" => some ⟨fun c => '!' ≤ c && c ≤ '~' && !c.isAlphanum⟩
  | "space" => some asciiSpace
  | "upper" => some (range 'A' 'Z')
  | "word" => some asciiWord
  | "xdigit" => some ⟨fun c => c.isDigit || ('a' ≤ c && c ≤ 'f') || ('A' ≤ c && c ≤ 'F')⟩
  | _ => none

end CharSet

end LineShell.Pattern
