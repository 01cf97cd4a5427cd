import LineShell.Text.Number

/-!
Faults: what ends the program in the middle of a command.

The shell computes with the numbers of its machine. A sum that these do not hold ends a program that
is built with a check for it, and otherwise is counted from 0 again. Bounds that are no bounds of a
part of a row end the program in either case.
-/

namespace LineShell

inductive Fault where
  /-- A sum that is too large. -/
  | overflow
  /-- A part of a row that would end before it starts. -/
  | inverted (start stop : Nat)
  /-- A part of a row that would end behind the row. -/
  | outside (stop length : Nat)
  deriving DecidableEq, Repr

def Fault.message : Fault → String
  | .overflow => "attempt to add with overflow"
  | .inverted start stop =>
    "slice index starts at " ++ toString start ++ " but ends at " ++ toString stop
  | .outside stop length =>
    "range end index " ++ toString stop ++ " out of range for slice of length " ++ toString length

/-- What becomes of a sum that is too large. -/
inductive Overflow where
  /-- It is a fault. -/
  | stops
  /-- It is counted from 0 again. -/
  | wraps
  deriving DecidableEq, Repr

/-- The first number that the machine does not have. Its numbers have 64 bits, and count the
elements of every row that it holds, however long rows are taken to be. -/
def machineBound (length : Nat) : Nat := max Text.numberBound (length + 1)

/-- The sum of two numbers, where there are numbers below `bound`. -/
def Overflow.add (o : Overflow) (bound a b : Nat) : Except Fault Nat :=
  if a + b < bound then .ok (a + b)
  else
    match o with
    | .stops => .error .overflow
    | .wraps => .ok ((a + b) % bound)

/-- Sets the flags from `start` up to `stop`. -/
def setSlice (flags : List Bool) (start stop : Nat) : Except Fault (List Bool) :=
  if stop < start then .error (.inverted start stop)
  else if flags.length < stop then .error (.outside stop flags.length)
  else .ok (flags.take start ++ List.replicate (stop - start) true ++ flags.drop stop)

end LineShell
