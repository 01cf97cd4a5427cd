/-!
Lines of a sequence of characters or of bytes. A line ends at a line feed, which is not part of it,
and neither is one carriage return right before it. What follows the last line feed is a line
unless it is empty, and there a final carriage return stays.
-/

namespace LineShell.Text

variable {α : Type} [DecidableEq α]

/-- Drops `cr` from the front of a line that is held last element first. -/
def dropReturn (cr : α) : List α → List α
  | [] => []
  | c :: cs => if c = cr then cs else c :: cs

/-- The lines of `xs`, the first of them continuing `held`, which is kept last element first. -/
def linesFrom (lf cr : α) (held : List α) : List α → List (List α)
  | [] => if held.isEmpty then [] else [held.reverse]
  | c :: cs =>
    if c = lf then (dropReturn cr held).reverse :: linesFrom lf cr [] cs
    else linesFrom lf cr (c :: held) cs

/-- The lines of a text. -/
def lines (s : String) : List String :=
  (linesFrom '\n' '\r' [] s.toList).map String.ofList

/-- The lines of a sequence of bytes. -/
def byteLines (bytes : List UInt8) : List (List UInt8) :=
  linesFrom 10 13 [] bytes

/-- Texts with one line feed between each two. -/
def unlines (texts : List String) : String := "\n".intercalate texts

/-- Texts with one space between each two. -/
def unwords (texts : List String) : String := " ".intercalate texts

end LineShell.Text
