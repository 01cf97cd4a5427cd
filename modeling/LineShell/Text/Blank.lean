/-!
Blanks: the characters with the Unicode property `White_Space`, and the two things that are read off
them, the words of a text and a text without its trailing blanks.
-/

namespace LineShell.Text

/-- The property `White_Space`. -/
def isBlank (c : Char) : Bool :=
  let n := c.toNat
  (0x09 ≤ n && n ≤ 0x0D) || n == 0x20 || n == 0x85 || n == 0xA0 || n == 0x1680 ||
    (0x2000 ≤ n && n ≤ 0x200A) || n == 0x2028 || n == 0x2029 || n == 0x202F || n == 0x205F ||
    n == 0x3000

/-- The words of a text still to be counted, `inWord` telling whether the character before them
belongs to a word that is counted already. -/
def wordCountFrom (inWord : Bool) : List Char → Nat
  | [] => 0
  | c :: cs =>
    if isBlank c then wordCountFrom false cs
    else (if inWord then 0 else 1) + wordCountFrom true cs

/-- The number of maximal runs of characters that are not blank. -/
def wordCount (s : String) : Nat := wordCountFrom false s.toList

/-- A list without its longest tail of blanks. -/
def dropBlankEnd : List Char → List Char
  | [] => []
  | c :: cs =>
    match dropBlankEnd cs with
    | [] => if isBlank c then [] else [c]
    | d :: ds => c :: d :: ds

/-- A text without its trailing blanks. -/
def trimEnd (s : String) : String := String.ofList (dropBlankEnd s.toList)

theorem head?_dropBlankEnd {c : Char} (h : isBlank c = false) (cs : List Char) :
    (dropBlankEnd (c :: cs)).head? = some c := by
  rw [dropBlankEnd]
  cases dropBlankEnd cs with
  | nil => simp [h]
  | cons d ds => rfl

theorem isBlank_getLast_dropBlankEnd (cs : List Char) (h : dropBlankEnd cs ≠ []) :
    isBlank ((dropBlankEnd cs).getLast h) = false := by
  induction cs with
  | nil => exact absurd rfl h
  | cons c cs ih =>
    cases hd : dropBlankEnd cs with
    | nil =>
      by_cases hc : isBlank c
      · simp [dropBlankEnd, hd, hc] at h
      · simp [dropBlankEnd, hd, hc]
    | cons d ds =>
      have := ih (by simp [hd])
      simp only [hd] at this
      simpa [dropBlankEnd, hd] using this

end LineShell.Text
