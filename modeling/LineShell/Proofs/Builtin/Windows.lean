import LineShell.Builtin.Grep
import Mathlib.Data.List.Basic
import Mathlib.Data.Nat.Find

/-!
# Windows of matches

The elements that are kept of a list are those in the window of a match: the match itself and the
`after` elements that follow it. `setWindows` draws the windows on a row of flags, one slice for
each match, with the arithmetic of the machine.

1. If the windows end at numbers that the machine has, no sum is too large, all slices are in the
   row, and the flags that are set make up the union of the windows (`setWindows_of_fits`). What
   becomes of sums that are too large makes no difference then.
2. Otherwise the first window that does not fit is a fault (`setWindows_of_not_fits`). If sums wrap
   around, it seems to end before it starts.
-/

namespace LineShell

/-! ## Sums -/

theorem numberBound_le_machineBound (length : Nat) : Text.numberBound ≤ machineBound length :=
  Nat.le_max_left _ _

theorem lt_machineBound (length : Nat) : length < machineBound length :=
  Nat.lt_of_lt_of_le (Nat.lt_succ_self length) (Nat.le_max_right _ _)

namespace Overflow

variable {o : Overflow} {bound a b : Nat}

theorem add_of_lt (h : a + b < bound) : o.add bound a b = .ok (a + b) := if_pos h

theorem add_stops (h : bound ≤ a + b) : stops.add bound a b = .error .overflow :=
  if_neg (Nat.not_lt.mpr h)

/-- A sum of two numbers of the machine wraps around at most once. -/
theorem add_wraps (h : bound ≤ a + b) (ha : a < bound) (hb : b ≤ bound) :
    wraps.add bound a b = .ok (a + b - bound) := by
  have hmod : (a + b) % bound = a + b - bound := by
    rw [Nat.mod_eq_sub_mod h, Nat.mod_eq_of_lt (by omega)]
  rw [add, if_neg (Nat.not_lt.mpr h)]
  simp only [hmod]

end Overflow

theorem setSlice_of_le {flags : List Bool} {start stop : Nat} (hle : start ≤ stop)
    (hstop : stop ≤ flags.length) :
    ∃ flags', setSlice flags start stop = .ok flags' ∧ flags'.length = flags.length ∧
      ∀ j, flags'[j]? = some true ↔ (start ≤ j ∧ j < stop) ∨ flags[j]? = some true := by
  refine ⟨flags.take start ++ List.replicate (stop - start) true ++ flags.drop stop, ?_, ?_,
    fun j => ?_⟩
  · rw [setSlice, if_neg (Nat.not_lt.mpr hle), if_neg (Nat.not_lt.mpr hstop)]
  · simp only [List.length_append, List.length_take, List.length_replicate, List.length_drop]
    omega
  · have hmin : min start flags.length = start := by omega
    rw [List.getElem?_append, List.getElem?_append]
    simp only [List.length_append, List.length_take, List.length_replicate, hmin,
      Nat.add_sub_cancel' hle]
    split_ifs with hlt hstart
    · rw [List.getElem?_take_of_lt hstart]
      simp only [show ¬(start ≤ j ∧ j < stop) by omega, false_or]
    · rw [List.getElem?_replicate, if_pos (by omega)]
      simp only [true_iff]
      exact .inl ⟨by omega, hlt⟩
    · rw [List.getElem?_drop, Nat.add_sub_cancel' (Nat.le_of_not_lt hlt)]
      simp only [show ¬(start ≤ j ∧ j < stop) by omega, false_or]

namespace Builtin

variable {α : Type} {o : Overflow} {isMatch : α → Bool} {after n i j length : Nat} {x : α}
  {done xs ys : List α} {flags : List Bool}

theorem windowEnd_of_lt (h : i + after + 1 < machineBound length) :
    windowEnd o after i length = .ok (min (i + after + 1) length) := by
  rw [windowEnd, Overflow.add_of_lt (Nat.lt_of_succ_lt h)]
  simp only [Overflow.add_of_lt h]
  rfl

theorem windowEnd_stops (h : machineBound length ≤ i + after + 1) :
    windowEnd .stops after i length = .error .overflow := by
  rw [windowEnd]
  rcases Nat.lt_or_ge (i + after) (machineBound length) with hlt | hge
  · rw [Overflow.add_of_lt hlt]
    simp only [Overflow.add_stops h]
    rfl
  · rw [Overflow.add_stops hge]

theorem windowEnd_wraps (h : machineBound length ≤ i + after + 1)
    (hafter : after + 1 < machineBound length) (hi : i < length) :
    ∃ stop < i, windowEnd .wraps after i length = .ok stop := by
  have hbound := lt_machineBound length
  refine ⟨i + after + 1 - machineBound length, by omega, ?_⟩
  have hmin : min (i + after + 1 - machineBound length) length =
      i + after + 1 - machineBound length := by omega
  rw [windowEnd]
  rcases Nat.lt_or_ge (i + after) (machineBound length) with hlt | hge
  · rw [Overflow.add_of_lt hlt]
    simp only [Overflow.add_wraps h hlt (by omega)]
    rw [Except.map, hmin]
  · rw [Overflow.add_wraps hge (by omega) (by omega)]
    have hsum : i + after - machineBound length + 1 = i + after + 1 - machineBound length := by
      omega
    have hfits : i + after - machineBound length + 1 < machineBound length := by omega
    simp only [Overflow.add_of_lt hfits]
    rw [Except.map, hsum, hmin]

/-! ## The union -/

/-- The element at `j` would lie in the window of a match: it matches, or it is one of the `after`
elements that follow. -/
def Kept (isMatch : α → Bool) (after : Nat) (xs : List α) (j : Nat) : Prop :=
  ∃ i x, i ≤ j ∧ j ≤ i + after ∧ xs[i]? = some x ∧ isMatch x = true

theorem not_kept_nil : ¬Kept isMatch after [] j := by
  rintro ⟨i, x, -, -, hx, -⟩
  simp at hx

/-- One more element at the end adds its own window. -/
theorem kept_concat_iff :
    Kept isMatch after (xs ++ [x]) j ↔
      Kept isMatch after xs j ∨
        (isMatch x = true ∧ xs.length ≤ j ∧ j ≤ xs.length + after) := by
  constructor
  · rintro ⟨i, y, hi, hj, hy, hmatch⟩
    rcases Nat.lt_or_ge i xs.length with hlt | hge
    · rw [List.getElem?_append_left hlt] at hy
      exact .inl ⟨i, y, hi, hj, hy, hmatch⟩
    · rw [List.getElem?_append_right hge, List.getElem?_singleton] at hy
      split_ifs at hy with hzero
      rw [Option.some.injEq] at hy
      subst hy
      exact .inr ⟨hmatch, by omega, by omega⟩
  · rintro (⟨i, y, hi, hj, hy, hmatch⟩ | ⟨hmatch, hle, hj⟩)
    · have hlt : i < xs.length := (List.getElem?_eq_some_iff.mp hy).1
      exact ⟨i, y, hi, hj, by rwa [List.getElem?_append_left hlt], hmatch⟩
    · exact ⟨xs.length, x, hle, hj, by simp, hmatch⟩

/-- The windows of these elements end at numbers that the machine has. -/
def Fits (isMatch : α → Bool) (after : Nat) (xs : List α) : Prop :=
  ∀ i x, xs[i]? = some x → isMatch x = true → i + after + 1 < machineBound xs.length

theorem fits_of_lt (h : xs.length + after < Text.numberBound) : Fits isMatch after xs := by
  intro i x hx _
  have hi : i < xs.length := (List.getElem?_eq_some_iff.mp hx).1
  have hle := numberBound_le_machineBound xs.length
  omega

theorem fits_zero (isMatch : α → Bool) (xs : List α) : Fits isMatch 0 xs := by
  intro i x hx _
  have hi : i < xs.length := (List.getElem?_eq_some_iff.mp hx).1
  have hlt := lt_machineBound xs.length
  omega

theorem exists_first_of_not_fits (h : ¬Fits isMatch after xs) :
    ∃ done x rest, xs = done ++ x :: rest ∧ isMatch x = true ∧
      machineBound xs.length ≤ done.length + after + 1 ∧
      ∀ i y, done[i]? = some y → isMatch y = true → i + after + 1 < machineBound xs.length := by
  have hex : ∃ i x, xs[i]? = some x ∧ isMatch x = true ∧
      machineBound xs.length ≤ i + after + 1 := by
    simpa only [Fits, not_forall, Nat.not_lt, exists_prop] using h
  classical
  obtain ⟨x, hx, hmatch, hlarge⟩ := Nat.find_spec hex
  obtain ⟨hlt, hget⟩ := List.getElem?_eq_some_iff.mp hx
  have hlength : (xs.take (Nat.find hex)).length = Nat.find hex :=
    List.length_take_of_le (Nat.le_of_lt hlt)
  refine ⟨xs.take (Nat.find hex), x, xs.drop (Nat.find hex + 1), ?_, hmatch,
    by rwa [hlength], fun i y hy hy' => ?_⟩
  · rw [← hget, List.getElem_cons_drop, List.take_append_drop]
  · have hi : i < Nat.find hex := by
      have := (List.getElem?_eq_some_iff.mp hy).1
      omega
    rw [List.getElem?_take_of_lt hi] at hy
    have hmin := Nat.find_min hex hi
    push Not at hmin
    exact hmin y hy hy'

/-! ## The flags -/

/-- The flags are set in the windows of the elements in `done`, which stand in front. -/
structure Windowed (isMatch : α → Bool) (after n : Nat) (done : List α) (flags : List Bool) :
    Prop where
  length_eq : flags.length = n
  set_iff : ∀ j, flags[j]? = some true ↔ j < n ∧ Kept isMatch after done j

theorem windowed_replicate (isMatch : α → Bool) (after n : Nat) :
    Windowed isMatch after n [] (List.replicate n false) where
  length_eq := List.length_replicate
  set_iff j := by
    rw [List.getElem?_replicate]
    constructor
    · intro h
      split_ifs at h
      cases h
    · exact fun h => absurd h.2 not_kept_nil

/-- **One element.** If it matches, the bounds of its window are those of a slice. -/
theorem Windowed.step (h : Windowed isMatch after n done flags) (hn : done.length < n)
    (hfit : isMatch x = true → done.length + after + 1 < machineBound n) :
    ∃ flags', Windowed isMatch after n (done ++ [x]) flags' ∧
      ∀ xs, setWindows o isMatch after done.length flags (x :: xs) =
        setWindows o isMatch after (done.length + 1) flags' xs := by
  by_cases hmatch : isMatch x = true
  · have hend : windowEnd o after done.length flags.length =
        .ok (min (done.length + after + 1) n) := by
      rw [h.length_eq, windowEnd_of_lt (hfit hmatch)]
    have hle : done.length ≤ min (done.length + after + 1) n := by omega
    have hstop : min (done.length + after + 1) n ≤ flags.length := by
      rw [h.length_eq]
      omega
    obtain ⟨flags', hset, hlength, hiff⟩ := setSlice_of_le hle hstop
    refine ⟨flags', ⟨by rw [hlength, h.length_eq], fun j => ?_⟩, fun xs => ?_⟩
    · rw [hiff, h.set_iff, kept_concat_iff]
      simp only [hmatch, true_and]
      constructor
      · rintro (⟨hle, hlt⟩ | ⟨hlt, hkept⟩)
        · exact ⟨by omega, .inr ⟨hle, by omega⟩⟩
        · exact ⟨hlt, .inl hkept⟩
      · rintro ⟨hlt, hkept | ⟨hle, hj⟩⟩
        · exact .inr ⟨hlt, hkept⟩
        · exact .inl ⟨hle, by omega⟩
    · rw [setWindows, if_pos hmatch]
      simp only [hend, hset]
  · refine ⟨flags, ⟨h.length_eq, fun j => ?_⟩, fun xs => ?_⟩
    · rw [h.set_iff, kept_concat_iff]
      simp only [hmatch, Bool.false_eq_true, false_and, or_false]
    · rw [setWindows, if_neg hmatch]

/-- **Some elements**, by induction on them. What comes behind them is drawn on the flags that they
set. -/
theorem Windowed.run (h : Windowed isMatch after n done flags) (xs : List α)
    (hn : (done ++ xs).length ≤ n)
    (hfit : ∀ i x, (done ++ xs)[i]? = some x → isMatch x = true →
      i + after + 1 < machineBound n) :
    ∃ flags', Windowed isMatch after n (done ++ xs) flags' ∧
      ∀ ys, setWindows o isMatch after done.length flags (xs ++ ys) =
        setWindows o isMatch after (done ++ xs).length flags' ys := by
  induction xs generalizing done flags with
  | nil =>
    rw [List.append_nil]
    exact ⟨flags, h, fun ys => rfl⟩
  | cons x xs ih =>
    have hlt : done.length < n := by
      rw [List.length_append, List.length_cons] at hn
      omega
    obtain ⟨flags₁, hflags, hstep⟩ := h.step (o := o) hlt (hfit done.length x (by simp))
    have happend : done ++ x :: xs = done ++ [x] ++ xs := by simp
    rw [happend] at hn hfit ⊢
    obtain ⟨flags₂, hwindowed, hset⟩ := ih hflags hn hfit
    rw [List.length_append, List.length_singleton] at hset
    exact ⟨flags₂, hwindowed, fun ys => by rw [List.cons_append, hstep, hset]⟩

/-- **Windows that fit are drawn**, and the flags that are set are those of the union. -/
theorem setWindows_of_fits (o : Overflow) (hfit : Fits isMatch after xs) :
    ∃ flags, setWindows o isMatch after 0 (List.replicate xs.length false) xs = .ok flags ∧
      Windowed isMatch after xs.length xs flags := by
  obtain ⟨flags, hflags, hset⟩ :=
    (windowed_replicate isMatch after xs.length).run (o := o) xs (Nat.le_refl _) hfit
  refine ⟨flags, ?_, hflags⟩
  have hall := hset []
  rwa [List.append_nil] at hall

/-- **A window that does not fit is a fault.** A check for sums that are too large finds it, and
without one it would end before it starts. Only a window that is as large as it can be is empty
instead if sums wrap around. -/
theorem setWindows_of_not_fits (h : ¬Fits isMatch after xs) :
    setWindows .stops isMatch after 0 (List.replicate xs.length false) xs = .error .overflow ∧
      (after + 1 < machineBound xs.length → ∃ start stop, stop < start ∧
        setWindows .wraps isMatch after 0 (List.replicate xs.length false) xs =
          .error (.inverted start stop)) := by
  obtain ⟨done, x, rest, hxs, hmatch, hlarge, hfirst⟩ := exists_first_of_not_fits h
  have hlt : done.length < xs.length := by
    rw [hxs, List.length_append, List.length_cons]
    omega
  -- up to the first window that does not fit, the flags are those of the union
  have hdone (o : Overflow) : ∃ flags, flags.length = xs.length ∧
      setWindows o isMatch after 0 (List.replicate xs.length false) xs =
        setWindows o isMatch after done.length flags (x :: rest) := by
    obtain ⟨flags, hflags, hset⟩ :=
      (windowed_replicate isMatch after xs.length).run (o := o) done (Nat.le_of_lt hlt) hfirst
    exact ⟨flags, hflags.length_eq, (congrArg _ hxs).trans (hset (x :: rest))⟩
  constructor
  · obtain ⟨flags, hlength, hset⟩ := hdone .stops
    rw [hset, setWindows, if_pos hmatch, hlength, windowEnd_stops hlarge]
  · intro hafter
    obtain ⟨flags, hlength, hset⟩ := hdone .wraps
    obtain ⟨stop, hstop, hend⟩ := windowEnd_wraps hlarge hafter hlt
    refine ⟨done.length, stop, hstop, ?_⟩
    rw [hset, setWindows, if_pos hmatch, hlength, hend]
    simp only [setSlice, if_pos hstop]

end Builtin

end LineShell
