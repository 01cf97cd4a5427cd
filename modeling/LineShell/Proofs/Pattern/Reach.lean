import LineShell.Pattern.Expr
import Mathlib.Algebra.GroupWithZero.Nat
import Mathlib.Logic.Function.Iterate

/-!
# Searching from one place at a time

An expression takes a set of places in a line to a set of places. It does so place by place: what it
reaches from a set is what it reaches from one of the places in it (`reach_additive`), and it never
leaves the line (`reach_keepsIn`). So the search for a match comes down to pairs of places of which
the second is reached from the first, the spans of an expression: a line matches if there is one
(`isMatch_iff_spans`), and the spans of a sequence are those of its parts put together
(`spans_seq_iff`).
-/

namespace LineShell.Pattern

/-! ## Sets of places -/

/-- What is reached from a set is what is reached from a place in it. -/
def Additive (f : Nat → Nat) : Prop :=
  ∀ places k, (f places).testBit k = true ↔
    ∃ i, places.testBit i = true ∧ (f (2 ^ i)).testBit k = true

/-- All places are among the first `size`. -/
def In (size places : Nat) : Prop := ∀ i, places.testBit i = true → i < size

/-- From places of a line, only such places are reached. -/
def KeepsIn (size : Nat) (f : Nat → Nat) : Prop := ∀ places, In size places → In size (f places)

theorem testBit_two_pow_iff {i k : Nat} : (2 ^ i).testBit k = true ↔ i = k := by
  rw [Nat.testBit_two_pow, decide_eq_true_iff]

theorem in_of_lt {n places : Nat} (h : places < 2 ^ n) : In n places := by
  intro i hi
  by_contra hge
  have hle : 2 ^ n ≤ 2 ^ i := Nat.pow_le_pow_right Nat.zero_lt_two (Nat.le_of_not_lt hge)
  rw [Nat.testBit_lt_two_pow (Nat.lt_of_lt_of_le h hle)] at hi
  cases hi

theorem in_two_pow {size i : Nat} (h : i < size) : In size (2 ^ i) := by
  intro k hk
  rwa [← testBit_two_pow_iff.mp hk]

namespace Additive

variable {f g : Nat → Nat}

theorem id : Additive fun places => places := by
  intro places k
  constructor
  · exact fun hk => ⟨k, hk, testBit_two_pow_iff.mpr rfl⟩
  · rintro ⟨i, hi, hk⟩
    rwa [← testBit_two_pow_iff.mp hk]

theorem comp (hg : Additive g) (hf : Additive f) : Additive fun places => g (f places) := by
  intro places k
  constructor
  · intro hk
    obtain ⟨j, hj, hk⟩ := (hg _ k).mp hk
    obtain ⟨i, hi, hj⟩ := (hf _ j).mp hj
    exact ⟨i, hi, (hg _ k).mpr ⟨j, hj, hk⟩⟩
  · rintro ⟨i, hi, hk⟩
    obtain ⟨j, hj, hk⟩ := (hg _ k).mp hk
    exact (hg _ k).mpr ⟨j, (hf _ j).mpr ⟨i, hi, hj⟩, hk⟩

theorem or (hf : Additive f) (hg : Additive g) : Additive fun places => f places ||| g places := by
  intro places k
  simp only [Nat.testBit_or, Bool.or_eq_true, and_or_left, exists_or]
  rw [hf, hg]

theorem and (hf : Additive f) (met : Nat) : Additive fun places => f places &&& met := by
  intro places k
  simp only [Nat.testBit_and, Bool.and_eq_true, ← and_assoc, exists_and_right]
  rw [hf]

theorem shiftLeft (hf : Additive f) (n : Nat) : Additive fun places => f places <<< n := by
  intro places k
  simp only [Nat.testBit_shiftLeft, Bool.and_eq_true, and_left_comm, exists_and_left]
  rw [hf]

end Additive

namespace KeepsIn

variable {size : Nat} {f g : Nat → Nat}

theorem comp (hg : KeepsIn size g) (hf : KeepsIn size f) :
    KeepsIn size fun places => g (f places) :=
  fun places h => hg _ (hf places h)

theorem or (hf : KeepsIn size f) (hg : KeepsIn size g) :
    KeepsIn size fun places => f places ||| g places := by
  intro places h k hk
  rw [Nat.testBit_or, Bool.or_eq_true] at hk
  exact hk.elim (hf places h k) (hg places h k)

end KeepsIn

namespace Expr

variable {next : Nat → Nat}

/-- Stopping early makes no difference. -/
theorem iterate_eq (next : Nat → Nat) (n places : Nat) :
    iterate next n places = next^[n] places := by
  induction n generalizing places with
  | zero => rfl
  | succ n ih =>
    rw [iterate]
    split
    case isTrue hsame => exact (Function.iterate_fixed hsame (n + 1)).symm
    case isFalse => rw [ih, Function.iterate_succ_apply]

theorem iterate_additive (h : Additive next) (n : Nat) : Additive (iterate next n) := by
  have heq : iterate next n = fun places => next^[n] places := funext fun p => iterate_eq next n p
  rw [heq]
  induction n with
  | zero => exact .id
  | succ n ih =>
    simp only [Function.iterate_succ_apply]
    exact Additive.comp (ih (funext fun p => iterate_eq next n p)) h

theorem iterate_keepsIn {size : Nat} (h : KeepsIn size next) (n : Nat) :
    KeepsIn size (iterate next n) := by
  intro places hplaces
  rw [iterate_eq]
  induction n generalizing places with
  | zero => exact hplaces
  | succ n ih => exact ih (next places) (h places hplaces)

theorem upTo_additive (h : Additive next) (n : Nat) : Additive (upTo next n) :=
  iterate_additive (Additive.id.or h) n

theorem upTo_keepsIn {size : Nat} (h : KeepsIn size next) (n : Nat) : KeepsIn size (upTo next n) :=
  iterate_keepsIn (KeepsIn.or (fun _ h => h) h) n

/-- **What an expression reaches, it reaches from single places.** -/
theorem reach_additive (size : Nat) (e : Expr Nat Nat) : Additive (e.reach size) := by
  induction e with
  | empty => exact .id
  | step before => exact (Additive.id.and before).shiftLeft 1
  | look met => exact Additive.id.and met
  | seq first second ihFirst ihSecond => exact ihSecond.comp ihFirst
  | alt first second ihFirst ihSecond => exact ihFirst.or ihSecond
  | rep body least most ih =>
    cases most with
    | none => exact (upTo_additive ih size).comp (iterate_additive ih least)
    | some most => exact (upTo_additive ih (most - least)).comp (iterate_additive ih least)

end Expr

/-! ## Places in a line -/

theorem CharSet.placesIn_lt (s : CharSet) (cs : List Char) : s.placesIn cs < 2 ^ cs.length := by
  induction cs with
  | nil => exact Nat.zero_lt_one
  | cons c cs ih =>
    have hbit : (s.has c).toNat ≤ 1 := Bool.toNat_le _
    rw [placesIn, List.length_cons, Nat.pow_succ]
    omega

namespace Expr

/-- The places in a line: one in front of each character and one behind the last. -/
def size (line : String) : Nat := line.toList.length + 1

/-- The places that an expression reaches in a line. -/
def reachIn (e : Expr CharSet Look) (line : String) : Nat → Nat :=
  (e.map (·.placesIn line.toList) (·.placesIn none line.toList)).reach (size line)

/-- The expression matches what stands between the two places of the line. -/
def Spans (e : Expr CharSet Look) (line : String) (i j : Nat) : Prop :=
  i < size line ∧ (e.reachIn line (2 ^ i)).testBit j = true

variable {e e' : Expr CharSet Look} {line : String} {i j k : Nat}

theorem reachIn_keepsIn (e : Expr CharSet Look) (line : String) :
    KeepsIn (size line) (e.reachIn line) := by
  induction e with
  | empty => exact fun _ h => h
  | step chars =>
    intro places _ k hk
    simp only [reachIn, map, reach, Nat.testBit_shiftLeft, Nat.testBit_and, Bool.and_eq_true,
      decide_eq_true_eq] at hk
    have hlt := in_of_lt (chars.placesIn_lt line.toList) _ hk.2.2
    rw [size]
    omega
  | look condition =>
    intro places h k hk
    simp only [reachIn, map, reach, Nat.testBit_and, Bool.and_eq_true] at hk
    exact h k hk.1
  | seq first second ihFirst ihSecond => exact ihSecond.comp ihFirst
  | alt first second ihFirst ihSecond => exact ihFirst.or ihSecond
  | rep body least most ih =>
    cases most with
    | none => exact (upTo_keepsIn ih (size line)).comp (iterate_keepsIn ih least)
    | some most => exact (upTo_keepsIn ih (most - least)).comp (iterate_keepsIn ih least)

theorem isMatch_iff_spans : e.isMatch line = true ↔ ∃ i j, e.Spans line i j := by
  have hsearch : e.isMatch line = (e.reachIn line (2 ^ size line - 1) != 0) := by
    rw [← Nat.one_shiftLeft]
    rfl
  rw [hsearch, bne_iff_ne]
  constructor
  · intro hne
    obtain ⟨j, hj⟩ := Nat.exists_testBit_of_ne_zero hne
    obtain ⟨i, hi, hj⟩ := (reach_additive _ _ _ j).mp hj
    rw [Nat.testBit_two_pow_sub_one, decide_eq_true_iff] at hi
    exact ⟨i, j, hi, hj⟩
  · rintro ⟨i, j, hi, hj⟩ hzero
    have hline : (2 ^ size line - 1).testBit i = true := by
      rw [Nat.testBit_two_pow_sub_one, decide_eq_true_iff]
      exact hi
    have hreached := (reach_additive _ _ _ j).mpr ⟨i, hline, hj⟩
    change (e.reachIn line (2 ^ size line - 1)).testBit j = true at hreached
    rw [hzero, Nat.zero_testBit] at hreached
    cases hreached

theorem spans_seq_iff :
    (seq e e').Spans line i k ↔ ∃ j, e.Spans line i j ∧ e'.Spans line j k := by
  have hreach : (seq e e').reachIn line (2 ^ i) = e'.reachIn line (e.reachIn line (2 ^ i)) := rfl
  constructor
  · rintro ⟨hi, hk⟩
    rw [hreach] at hk
    obtain ⟨j, hj, hk⟩ := (reach_additive _ _ _ k).mp hk
    exact ⟨j, ⟨hi, hj⟩, reachIn_keepsIn e line _ (in_two_pow hi) j hj, hk⟩
  · rintro ⟨j, ⟨hi, hj⟩, -, hk⟩
    refine ⟨hi, ?_⟩
    rw [hreach]
    exact (reach_additive _ _ _ k).mpr ⟨j, hj, hk⟩

end Expr

end LineShell.Pattern
