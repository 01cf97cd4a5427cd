/-!
Runs of code points, the entries of the tables of character properties.
-/

namespace LineShell.Unicode

/-- The code points from `first` to `last` at distance `step`. -/
structure Run where
  first : Nat
  last : Nat
  step : Nat
  deriving DecidableEq, Repr

/-- Whether a run has the code point `n`. -/
def Run.has (r : Run) (n : Nat) : Bool :=
  r.first ≤ n && n ≤ r.last && (n - r.first) % r.step == 0

/-- Whether a table, sorted by first code point, has the code point `n`. -/
def inTable (n : Nat) : List Run → Bool
  | [] => false
  | r :: rest => if n < r.first then false else r.has n || inTable n rest

end LineShell.Unicode
