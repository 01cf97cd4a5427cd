import LineShell.Pattern.Look

/-!
Pattern expressions and the search for them in a line.

Places in a line are numbered from 0, the place before the first character, to the length of the
line, and a set of places is a natural number whose bit `i` tells whether place `i` is in the set.
An expression takes the set of places where a match may start to the set of places where it may
end, so the search needs no backtracking and its cost does not depend on how often the expression
is ambiguous.
-/

namespace LineShell.Pattern

/-- Expressions over steps `χ`, which pass one character, and conditions `ℓ`, which pass none. -/
inductive Expr (χ ℓ : Type) where
  | empty
  | step (chars : χ)
  | look (condition : ℓ)
  | seq (first second : Expr χ ℓ)
  | alt (first second : Expr χ ℓ)
  /-- At least `least` and, if there is a bound, at most `most` repetitions. -/
  | rep (body : Expr χ ℓ) (least : Nat) (most : Option Nat)

namespace Expr

/-- Replaces the steps and the conditions. -/
def map {χ ℓ χ' ℓ' : Type} (f : χ → χ') (g : ℓ → ℓ') : Expr χ ℓ → Expr χ' ℓ'
  | empty => empty
  | step chars => step (f chars)
  | look condition => look (g condition)
  | seq first second => seq (first.map f g) (second.map f g)
  | alt first second => alt (first.map f g) (second.map f g)
  | rep body least most => rep (body.map f g) least most

/-- Repeats an expression. What is repeated any number of times already needs no second loop around
it, so loops nested in loops cost no more than one. -/
def again {χ ℓ : Type} (e : Expr χ ℓ) (least : Nat) (most : Option Nat) : Expr χ ℓ :=
  match e, most with
  | rep body inner none, none =>
    if inner ≤ 1 && least ≤ 1 then rep body (inner * least) none else rep e least most
  | rep body inner none, some 1 =>
    if inner ≤ 1 && least ≤ 1 then rep body (inner * least) none else rep e least most
  | rep body 0 (some 1), none => if least ≤ 1 then rep body 0 none else rep e least most
  | rep body 0 (some 1), some 1 => if least ≤ 1 then rep body 0 (some 1) else rep e least most
  | _, _ => rep e least most

/-- Applies `next` to a set of places `n` times, stopping once the set stays the same. -/
def iterate (next : Nat → Nat) : Nat → Nat → Nat
  | 0, places => places
  | n + 1, places =>
    let after := next places
    if after = places then places else iterate next n after

/-- The places reached by at most `n` applications of `next`. -/
def upTo (next : Nat → Nat) (n places : Nat) : Nat :=
  iterate (fun places => places ||| next places) n places

/-- The places where a match ends that starts in `places`. A step holds the set of places before
the characters that it passes, and a condition the set of places where it is met. Repetitions
without a bound reach all they ever reach within `size` rounds, the number of places. -/
def reach (size : Nat) : Expr Nat Nat → Nat → Nat
  | empty, places => places
  | step before, places => (places &&& before) <<< 1
  | look met, places => places &&& met
  | seq first second, places => second.reach size (first.reach size places)
  | alt first second, places => first.reach size places ||| second.reach size places
  | rep body least most, places =>
    let start := iterate (body.reach size) least places
    match most with
    | some most => upTo (body.reach size) (most - least) start
    | none => upTo (body.reach size) size start

end Expr

/-- The places before the characters of a set. -/
def CharSet.placesIn (s : CharSet) : List Char → Nat
  | [] => 0
  | c :: cs => 2 * s.placesIn cs + (s.has c).toNat

/-- The places of a line where a condition holds, `before` being the character before the line. -/
def Look.placesIn (condition : Look) (before : Option Char) : List Char → Nat
  | [] => (condition.holds before none).toNat
  | c :: cs =>
    2 * condition.placesIn (some c) cs + (condition.holds before (some c)).toNat

/-- Whether some part of the line matches. -/
def Expr.isMatch (e : Expr CharSet Look) (line : String) : Bool :=
  let chars := line.toList
  let size := chars.length + 1
  let onLine := e.map (·.placesIn chars) (·.placesIn none chars)
  onLine.reach size (1 <<< size - 1) != 0

end LineShell.Pattern
