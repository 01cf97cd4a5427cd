import LineShell.Proofs.Builtin.Windows
import Mathlib.Data.List.Pairwise

/-!
# The lines that are selected

A line is selected if it matches or is one of the `after` lines that follow a match. If the machine
can count to the ends of all windows, the flags that `select` sets are those of these lines
(`setWindows_of_fits`), and what is left is how lines with flags are put out.

A text may have a line `--` of its own, so the selection is described by `Item`s, which tell the
lines by their numbers. `marked` works on items as it does on texts (`marked_eq_map_items`), and
puts separators exactly between lines that are apart (`spaced_items`).
-/

namespace LineShell.Builtin

section Marks

variable {α β : Type}

theorem marked_map (f : α → β) (separator : Option α) (started gap : Bool)
    (xs : List (α × Bool)) :
    marked (separator.map f) started gap (xs.map (Prod.map f id)) =
      (marked separator started gap xs).map f := by
  fun_induction marked separator started gap xs with
  | case1 => rfl
  | case2 started gap x xs ih =>
    rw [List.map_cons, Prod.map_apply, id_eq, marked, ih]
  | case3 started gap x xs ih =>
    rw [List.map_cons, Prod.map_apply, id_eq, marked, ih, List.map_append, List.map_cons]
    split_ifs
    · cases separator <;> rfl
    · rfl

theorem filterMap_marked (f : α → Option β) {separator : Option α}
    (hsep : separator.toList.filterMap f = []) (started gap : Bool) (xs : List (α × Bool)) :
    (marked separator started gap xs).filterMap f =
      (xs.filter fun p => p.2).filterMap fun p => f p.1 := by
  fun_induction marked separator started gap xs with
  | case1 => rfl
  | case2 started gap x xs ih => simpa using ih
  | case3 started gap x xs ih =>
    have hdue : (if (started && gap) = true then separator.toList else []).filterMap f = [] := by
      split_ifs
      · exact hsep
      · rfl
    rw [List.filterMap_append, hdue, List.nil_append, List.filter_cons_of_pos rfl,
      List.filterMap_cons, List.filterMap_cons, ih]

theorem marked_none (isMatch : α → Bool) (started gap : Bool) (xs : List α) :
    marked none started gap (xs.zip (xs.map isMatch)) = xs.filter isMatch := by
  induction xs generalizing started gap with
  | nil => rfl
  | cons x xs ih =>
    rw [List.map_cons, List.zip_cons_cons, List.filter_cons]
    cases isMatch x with
    | false => exact ih started true
    | true =>
      rw [marked, ih, if_pos rfl]
      split_ifs <;> rfl

end Marks

/-! ## Items -/

/-- What stands in a selection. -/
inductive Item where
  /-- The line with this number. -/
  | line (index : Nat)
  /-- The line `--` between two groups. -/
  | separator
  deriving DecidableEq, Repr

def Item.index? : Item → Option Nat
  | .line j => some j
  | .separator => none

def Item.text (lines : List String) : Item → String
  | .line j => lines.getD j ""
  | .separator => "--"

/-- Of two lines that follow each other, a separator stands between those that are apart, if lines
after a match are asked for, and nowhere else. -/
inductive Spaced (after : Nat) : List Item → Prop where
  | nil : Spaced after []
  | single (j : Nat) : Spaced after [.line j]
  | near {j k : Nat} {rest : List Item} (h : ¬(0 < after ∧ j + 1 < k))
      (hrest : Spaced after (.line k :: rest)) : Spaced after (.line j :: .line k :: rest)
  | far {j k : Nat} {rest : List Item} (h : 0 < after ∧ j + 1 < k)
      (hrest : Spaced after (.line k :: rest)) :
      Spaced after (.line j :: .separator :: .line k :: rest)

/-- As many lines as there are flags, each with its flag. -/
def flagged (flags : List Bool) : List (Item × Bool) :=
  ((List.range flags.length).map Item.line).zip flags

/-- The selection that the flags make, with numbers in the place of texts. -/
def items (after : Nat) (flags : List Bool) : List Item :=
  marked (if after = 0 then none else some .separator) false false (flagged flags)

section Items

variable {after : Nat} {flags : List Bool} {lines : List String}

theorem map_text_lines (lines : List String) :
    ((List.range lines.length).map Item.line).map (Item.text lines) = lines := by
  apply List.ext_getElem
  · simp
  · intro j hj hj'
    simp [Item.text, List.getElem?_eq_getElem hj']

theorem marked_eq_map_items (after : Nat) (hlength : flags.length = lines.length) :
    marked (if after = 0 then none else some "--") false false (lines.zip flags) =
      (items after flags).map (Item.text lines) := by
  have hsep : (if after = 0 then none else some "--") =
      (if after = 0 then none else some Item.separator).map (Item.text lines) := by
    split_ifs <;> rfl
  have hzip : lines.zip flags = (flagged flags).map (Prod.map (Item.text lines) id) := by
    rw [flagged, ← List.zip_map_left, hlength, map_text_lines]
  rw [hsep, hzip, marked_map, items]

theorem marked_line (after l k : Nat) (xs : List (Item × Bool)) :
    marked (if after = 0 then none else some .separator) true (decide (l + 1 < k))
        ((.line k, true) :: xs) =
      (if 0 < after ∧ l + 1 < k then [.separator] else []) ++ .line k ::
        marked (if after = 0 then none else some .separator) true false xs := by
  rw [marked]
  by_cases hafter : after = 0
  · simp [hafter]
  · simp [hafter, Nat.pos_of_ne_zero hafter]

/-- The separators stand right in what is marked of lines with the numbers from `k` on, after the
line `l` if one was marked before. Elements were left out if `l` is not the line in front of `k`. -/
theorem spaced_marked {xs : List (Item × Bool)} {k n : Nat}
    (hxs : xs.map Prod.fst = (List.range' k n).map .line) :
    (∀ gap, Spaced after (marked (if after = 0 then none else some .separator) false gap xs)) ∧
      ∀ l < k, Spaced after (.line l ::
        marked (if after = 0 then none else some .separator) true (decide (l + 1 < k)) xs) := by
  induction xs generalizing k n with
  | nil => exact ⟨fun _ => .nil, fun l _ => .single l⟩
  | cons p xs ih =>
    obtain ⟨item, flag⟩ := p
    cases n with
    | zero => cases hxs
    | succ n =>
      rw [List.range'_succ, List.map_cons, List.map_cons, List.cons.injEq] at hxs
      obtain ⟨rfl, hxs⟩ := hxs
      obtain ⟨hfirst, hnext⟩ := ih hxs
      cases flag with
      | false =>
        refine ⟨fun gap => hfirst true, fun l hl => ?_⟩
        have hgap := hnext l (by omega)
        rwa [decide_eq_true (by omega : l + 1 < k + 1)] at hgap
      | true =>
        have hline := hnext k (Nat.lt_succ_self k)
        rw [decide_eq_false (Nat.lt_irrefl (k + 1))] at hline
        refine ⟨fun gap => hline, fun l hl => ?_⟩
        rw [marked_line]
        by_cases hfar : 0 < after ∧ l + 1 < k
        · rw [if_pos hfar]
          exact .far hfar hline
        · rw [if_neg hfar]
          exact .near hfar hline

theorem map_fst_flagged (flags : List Bool) :
    (flagged flags).map Prod.fst = (List.range flags.length).map Item.line :=
  List.map_fst_zip (by simp)

theorem spaced_items (after : Nat) (flags : List Bool) : Spaced after (items after flags) := by
  have hxs := map_fst_flagged flags
  rw [List.range_eq_range'] at hxs
  exact (spaced_marked hxs).1 false

theorem filterMap_items (after : Nat) (flags : List Bool) :
    (items after flags).filterMap Item.index? =
      ((flagged flags).filter fun p => p.2).filterMap fun p => p.1.index? := by
  apply filterMap_marked
  split_ifs <;> rfl

theorem pairwise_items (after : Nat) (flags : List Bool) :
    ((items after flags).filterMap Item.index?).Pairwise (· < ·) := by
  have hall : ((flagged flags).filterMap fun p => p.1.index?) = List.range flags.length := by
    calc ((flagged flags).filterMap fun p => p.1.index?)
        = ((flagged flags).map Prod.fst).filterMap Item.index? := by
          rw [List.filterMap_map]
          rfl
      _ = (List.range flags.length).filterMap some := by
          rw [map_fst_flagged, List.filterMap_map]
          rfl
      _ = List.range flags.length := List.filterMap_some
  rw [filterMap_items]
  have hsub := List.Sublist.filterMap (fun p : Item × Bool => p.1.index?)
    (List.filter_sublist (p := fun p => p.2) (l := flagged flags))
  rw [hall] at hsub
  exact List.pairwise_lt_range.sublist hsub

theorem flagged_getElem?_iff {i : Nat} {item : Item} :
    (flagged flags)[i]? = some (item, true) ↔ flags[i]? = some true ∧ item = .line i := by
  rw [flagged, List.getElem?_zip_eq_some, and_comm]
  refine and_congr_right fun hflag => ?_
  have hi : i < flags.length := (List.getElem?_eq_some_iff.mp hflag).1
  simp [hi, eq_comm]

theorem mem_items_iff {j : Nat} :
    j ∈ (items after flags).filterMap Item.index? ↔ flags[j]? = some true := by
  rw [filterMap_items, List.mem_filterMap]
  constructor
  · rintro ⟨⟨item, flag⟩, hin, hitem⟩
    obtain ⟨hin, rfl⟩ := List.mem_filter.mp hin
    obtain ⟨i, hi⟩ := List.mem_iff_getElem?.mp hin
    obtain ⟨hflag, rfl⟩ := flagged_getElem?_iff.mp hi
    obtain rfl : i = j := Option.some.inj hitem
    exact hflag
  · intro hflag
    have hline := flagged_getElem?_iff.mpr ⟨hflag, rfl⟩
    exact ⟨_, List.mem_filter.mpr ⟨List.mem_of_getElem? hline, rfl⟩, rfl⟩

/-! ## Separators -/

theorem Spaced.head?_ne {its : List Item} (h : Spaced after its) :
    its.head? ≠ some .separator := by
  cases h <;> simp

theorem Spaced.getLast?_ne {its : List Item} (h : Spaced after its) :
    its.getLast? ≠ some .separator := by
  induction h with
  | nil => simp
  | single j => simp
  | near hnear hrest ih => rwa [List.getLast?_cons_cons]
  | far hfar hrest ih => rwa [List.getLast?_cons_cons, List.getLast?_cons_cons]

theorem Spaced.isChain {its : List Item} (h : Spaced after its) :
    its.IsChain fun a b => a = .separator → b ≠ .separator := by
  induction h with
  | nil => exact .nil
  | single j => exact .singleton _
  | near hnear hrest ih => exact .cons_cons (by simp) ih
  | far hfar hrest ih => exact .cons_cons (by simp) (.cons_cons (by simp) ih)

end Items

/-! ## The selection -/

/-- The selection as a list of items. -/
structure Selected (o : Overflow) (isMatch : String → Bool) (after : Nat) (lines : List String)
    (selection : List Item) : Prop where
  text : select o isMatch after lines = .ok (selection.map (Item.text lines))
  /-- Its lines stand in their order, and each once. -/
  increasing : (selection.filterMap Item.index?).Pairwise (· < ·)
  /-- They are those in the window of a match. -/
  kept : ∀ j, j ∈ selection.filterMap Item.index? ↔
    j < lines.length ∧ Kept isMatch after lines j
  /-- A separator stands between two lines that are apart and nowhere else. -/
  spaced : Spaced after selection
  head : selection.head? ≠ some .separator
  last : selection.getLast? ≠ some .separator
  apart : selection.IsChain fun a b => a = .separator → b ≠ .separator

section Selection

variable {o : Overflow} {isMatch : String → Bool} {after : Nat} {lines : List String}
  {flags : List Bool}

theorem selected_items
    (hset : setWindows o isMatch after 0 (List.replicate lines.length false) lines = .ok flags)
    (hflags : Windowed isMatch after lines.length lines flags) :
    Selected o isMatch after lines (items after flags) where
  text := by
    rw [select, hset, Except.map, marked_eq_map_items after hflags.length_eq]
  increasing := pairwise_items after flags
  kept j := mem_items_iff.trans (hflags.set_iff j)
  spaced := spaced_items after flags
  head := (spaced_items after flags).head?_ne
  last := (spaced_items after flags).getLast?_ne
  apart := (spaced_items after flags).isChain

/-- The windows of matches alone hold the matches. -/
theorem Windowed.eq_map (h : Windowed isMatch 0 lines.length lines flags) :
    flags = lines.map isMatch := by
  have hset (j : Nat) : flags[j]? = some true ↔ (lines.map isMatch)[j]? = some true := by
    rw [h.set_iff, List.getElem?_map, Option.map_eq_some_iff]
    constructor
    · rintro ⟨-, i, line, hi, hj, hline, hmatch⟩
      obtain rfl : i = j := Nat.le_antisymm hi hj
      exact ⟨line, hline, hmatch⟩
    · rintro ⟨line, hline, hmatch⟩
      exact ⟨(List.getElem?_eq_some_iff.mp hline).1, j, line, Nat.le_refl j, Nat.le_refl j, hline,
        hmatch⟩
  apply List.ext_getElem (by rw [h.length_eq, List.length_map])
  intro j hj hj'
  have hiff := hset j
  rw [List.getElem?_eq_getElem hj, List.getElem?_eq_getElem hj', Option.some.injEq,
    Option.some.injEq] at hiff
  exact Bool.eq_iff_iff.mpr hiff

theorem select_zero (o : Overflow) (isMatch : String → Bool) (lines : List String) :
    select o isMatch 0 lines = .ok (lines.filter isMatch) := by
  obtain ⟨flags, hset, hflags⟩ := setWindows_of_fits o (fits_zero isMatch lines)
  rw [select, hset, Except.map, hflags.eq_map, if_pos rfl, marked_none]

end Selection

/-- **The selection is a union of windows.** For any lines and any predicate on them, what is
selected are the lines in the window of a match, in their order and each once, with separators
exactly between groups that are apart if lines after a match are asked for; and the slices that draw
the windows stay within the row of flags and set the flags of these lines. It is enough for this
that the machine can count to the ends of the windows, and 64 bits are enough if they hold the sum
of the lines, of the window and of one. Without lines after a match the selection is a filter. -/
theorem select_windows (o : Overflow) (isMatch : String → Bool) (after : Nat)
    (lines : List String) :
    (Fits isMatch after lines →
      (∃ selection, Selected o isMatch after lines selection) ∧
      ∃ flags, setWindows o isMatch after 0 (List.replicate lines.length false) lines = .ok flags ∧
        flags.length = lines.length ∧
        ∀ j : Nat, flags[j]? = some true ↔ j < lines.length ∧ Kept isMatch after lines j) ∧
    (lines.length + after + 1 < Text.numberBound → Fits isMatch after lines) ∧
    (after = 0 → select o isMatch after lines = .ok (lines.filter isMatch)) := by
  refine ⟨fun hfit => ?_, fun h => fits_of_lt (Nat.lt_of_succ_lt h), ?_⟩
  · obtain ⟨flags, hset, hflags⟩ := setWindows_of_fits o hfit
    exact ⟨⟨_, selected_items hset hflags⟩, flags, hset, hflags.length_eq, hflags.set_iff⟩
  · rintro rfl
    exact select_zero o isMatch lines

/-- The second of four lines is written like a separator, which does not keep the third from being
left out and separated. -/
theorem select_windows_four :
    select .wraps (· = "m") 1 ["m", "--", "b", "m"] = .ok ["m", "--", "--", "m"] ∧
      (∃ selection, Selected .wraps (· = "m") 1 ["m", "--", "b", "m"] selection) ∧
      select .wraps (· = "m") 0 ["m", "--", "b", "m"] = .ok ["m", "m"] ∧
      ∃ flags, setWindows .wraps (· = "m") 1 0 [false, false, false, false]
        ["m", "--", "b", "m"] = .ok flags ∧ flags[1]? = some true := by
  obtain ⟨hwindows, hfits, -⟩ := select_windows .wraps (· = "m") 1 ["m", "--", "b", "m"]
  obtain ⟨hselected, flags, hset, -, hflags⟩ := hwindows (hfits (by decide))
  have hfilter := (select_windows .wraps (· = "m") 0 ["m", "--", "b", "m"]).2.2 rfl
  exact ⟨by decide, hselected, hfilter, flags, hset,
    (hflags 1).mpr ⟨by decide, 0, "m", by decide, by decide, rfl, by decide⟩⟩

end LineShell.Builtin
