/-!
Unsigned decimal numbers of 64 bits, as they are written on a command line: an optional plus sign
and one or more digits.
-/

namespace LineShell.Text

/-- Why a text is not a number of 64 bits. -/
inductive NumberError where
  | empty
  | invalidDigit
  | tooLarge
  deriving DecidableEq, Repr

def NumberError.message : NumberError → String
  | .empty => "cannot parse integer from empty string"
  | .invalidDigit => "invalid digit found in string"
  | .tooLarge => "number too large to fit in target type"

/-- The first number that 64 bits do not hold. -/
def numberBound : Nat := UInt64.size

/-- Reads the digits after those that make up `n`. The first fault decides, and a character that is
no digit counts before the size of the number it would end. -/
def readDigits (n : Nat) : List Char → Except NumberError Nat
  | [] => .ok n
  | c :: cs =>
    if c.isDigit then
      let m := n * 10 + (c.toNat - '0'.toNat)
      if m < numberBound then readDigits m cs else .error .tooLarge
    else .error .invalidDigit

/-- Reads a number of 64 bits. -/
def readNumber (s : String) : Except NumberError Nat :=
  match s.toList with
  | [] => .error .empty
  | ['+'] => .error .invalidDigit
  | '+' :: digits => readDigits 0 digits
  | digits => readDigits 0 digits

theorem readDigits_eq_ok {n : Nat} {cs : List Char} (hdigits : ∀ c ∈ cs, c.isDigit = true)
    (hsmall : Nat.ofDigitChars 10 cs n < numberBound) :
    readDigits n cs = .ok (Nat.ofDigitChars 10 cs n) := by
  induction cs generalizing n with
  | nil => rfl
  | cons c cs ih =>
    have hcons : Nat.ofDigitChars 10 (c :: cs) n =
        Nat.ofDigitChars 10 cs (n * 10 + (c.toNat - '0'.toNat)) := by
      rw [Nat.ofDigitChars_cons, Nat.mul_comm]
    rw [hcons] at hsmall
    -- what has been read is no larger than the whole
    have hle : n * 10 + (c.toNat - '0'.toNat) < numberBound := by
      rw [Nat.ofDigitChars_eq_ofDigitChars_zero] at hsmall
      exact Nat.lt_of_le_of_lt
        (Nat.le_trans (Nat.le_mul_of_pos_left _ (Nat.pow_pos (by decide))) (Nat.le_add_right _ _))
        hsmall
    rw [readDigits, if_pos (hdigits c List.mem_cons_self), hcons]
    simp only [hle, if_true]
    exact ih (fun d hd => hdigits d (List.mem_cons_of_mem c hd)) hsmall

theorem readNumber_toString {n : Nat} (h : n < numberBound) : readNumber (toString n) = .ok n := by
  have hdigits (c : Char) (hc : c ∈ Nat.toDigits 10 n) : c.isDigit = true :=
    Nat.isDigit_of_mem_toDigits (by decide) (by decide) hc
  have hread := readDigits_eq_ok (n := 0) hdigits (by rwa [Nat.ofDigitChars_ten_toDigits])
  rw [Nat.ofDigitChars_ten_toDigits] at hread
  have hplus : '+' ∉ Nat.toDigits 10 n := fun hc => absurd (hdigits _ hc) (by decide)
  unfold readNumber
  rw [Nat.toString_eq_ofList_toDigits, String.toList_ofList]
  split
  · rename_i hnil
    exact absurd hnil Nat.toDigits_ne_nil
  · rename_i hcs
    simp [hcs] at hplus
  · rename_i hcs
    simp [hcs] at hplus
  · exact hread

end LineShell.Text
