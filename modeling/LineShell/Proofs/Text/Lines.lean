import LineShell.Proofs.Text.Utf8
import Mathlib.Data.List.Basic

/-!
# Lines

1. A sequence can be cut behind any of its line feeds: the lines in front of the cut and those
   behind it are the lines of the whole (`linesFrom_append_feed`). So the first lines of a sequence,
   if others follow them, are the lines of a part in front (`exists_lines_cut`).
2. Lines have no line feed and are made of the characters of their text (`mem_of_mem_lines`).
3. Lines that are joined and read again are the same lines, except that an empty line at the end is
   lost (`lines_unlines`).
-/

namespace LineShell.Text

section Feeds

variable {α : Type} [DecidableEq α] {lf cr : α} {held xs ys : List α}

/-! ## Cutting -/

theorem linesFrom_append_feed (lf cr : α) (held xs ys : List α) :
    linesFrom lf cr held (xs ++ lf :: ys) =
      linesFrom lf cr held (xs ++ [lf]) ++ linesFrom lf cr [] ys := by
  induction xs generalizing held with
  | nil => simp [linesFrom]
  | cons x xs ih =>
    by_cases hx : x = lf
    · simp only [List.cons_append, linesFrom, if_pos hx, ih]
    · simp only [List.cons_append, linesFrom, if_neg hx, ih]

theorem exists_first_feed {line : List α} {rest : List (List α)}
    (h : linesFrom lf cr held xs = line :: rest) (hrest : rest ≠ []) :
    ∃ front behind, xs = front ++ lf :: behind ∧ linesFrom lf cr held (front ++ [lf]) = [line] ∧
      linesFrom lf cr [] behind = rest := by
  induction xs generalizing held with
  | nil =>
    rw [linesFrom] at h
    split at h
    · cases h
    · exact absurd (List.cons.inj h).2.symm hrest
  | cons x xs ih =>
    rw [linesFrom] at h
    by_cases hx : x = lf
    · rw [if_pos hx] at h
      obtain ⟨hline, hbehind⟩ := List.cons.inj h
      refine ⟨[], xs, by rw [hx]; rfl, ?_, hbehind⟩
      simp [linesFrom, hline]
    · rw [if_neg hx] at h
      obtain ⟨front, behind, rfl, hfront, hbehind⟩ := ih h
      refine ⟨x :: front, behind, rfl, ?_, hbehind⟩
      rw [List.cons_append, linesFrom, if_neg hx, hfront]

/-- **The first lines of a sequence**, if others follow them, are the lines of a part in front, by
induction on how many they are. -/
theorem exists_lines_cut {before after : List (List α)}
    (h : linesFrom lf cr [] xs = before ++ after) (hafter : after ≠ []) :
    ∃ front behind, xs = front ++ behind ∧ linesFrom lf cr [] front = before ∧
      linesFrom lf cr [] behind = after := by
  induction before generalizing xs with
  | nil => exact ⟨[], xs, rfl, rfl, h⟩
  | cons line before ih =>
    obtain ⟨first, xs', rfl, hfirst, hxs'⟩ :=
      exists_first_feed h (List.append_ne_nil_of_right_ne_nil before hafter)
    obtain ⟨front, behind, rfl, hfront, hbehind⟩ := ih hxs'
    refine ⟨first ++ lf :: front, behind, by simp, ?_, hbehind⟩
    rw [linesFrom_append_feed, hfirst, hfront]
    rfl

/-! ## What lines are made of -/

theorem mem_of_mem_dropReturn {c : α} (h : c ∈ dropReturn cr xs) : c ∈ xs := by
  cases xs with
  | nil => exact h
  | cons x xs =>
    rw [dropReturn] at h
    split at h
    · exact List.mem_cons_of_mem x h
    · exact h

theorem dropReturn_of_not_mem (h : cr ∉ xs) : dropReturn cr xs = xs := by
  cases xs with
  | nil => rfl
  | cons x xs =>
    rw [List.mem_cons, not_or] at h
    rw [dropReturn, if_neg (Ne.symm h.1)]

theorem mem_of_mem_linesFrom {line : List α} {c : α} (hheld : lf ∉ held)
    (hline : line ∈ linesFrom lf cr held xs) (hc : c ∈ line) : (c ∈ held ∨ c ∈ xs) ∧ c ≠ lf := by
  have hmine {c : α} (hc : c ∈ held) : (c ∈ held ∨ c ∈ xs) ∧ c ≠ lf :=
    ⟨.inl hc, fun h => hheld (h ▸ hc)⟩
  induction xs generalizing held with
  | nil =>
    rw [linesFrom] at hline
    split at hline
    · cases hline
    · rw [List.mem_singleton.mp hline, List.mem_reverse] at hc
      exact hmine hc
  | cons x xs ih =>
    rw [linesFrom] at hline
    split at hline
    · rcases List.mem_cons.mp hline with rfl | hline
      · exact hmine (mem_of_mem_dropReturn (List.mem_reverse.mp hc))
      · obtain ⟨hmem, hne⟩ := ih List.not_mem_nil hline (fun h => absurd h List.not_mem_nil)
        exact ⟨.inr (List.mem_cons_of_mem x (hmem.resolve_left List.not_mem_nil)), hne⟩
    · rename_i hx
      have hheld' : lf ∉ x :: held := by
        rw [List.mem_cons, not_or]
        exact ⟨Ne.symm hx, hheld⟩
      obtain ⟨hmem, hne⟩ := ih hheld' hline (fun h => ⟨.inl h, fun he => hheld' (he ▸ h)⟩)
      refine ⟨?_, hne⟩
      rcases hmem with hmem | hmem
      · rcases List.mem_cons.mp hmem with rfl | hmem
        · exact .inr List.mem_cons_self
        · exact .inl hmem
      · exact .inr (List.mem_cons_of_mem x hmem)

/-! ## Joining -/

theorem linesFrom_feed (h : lf ∉ xs) :
    linesFrom lf cr held (xs ++ [lf]) = [(dropReturn cr (xs.reverse ++ held)).reverse] := by
  induction xs generalizing held with
  | nil => simp [linesFrom]
  | cons x xs ih =>
    rw [List.mem_cons, not_or] at h
    rw [List.cons_append, linesFrom, if_neg (Ne.symm h.1), ih h.2, List.reverse_cons,
      List.append_assoc, List.singleton_append]

theorem linesFrom_intercalate {lines : List (List α)} (hlf : ∀ line ∈ lines, lf ∉ line)
    (hcr : ∀ line ∈ lines, cr ∉ line) :
    linesFrom lf cr [] ([lf].intercalate lines) =
      if lines.getLast? = some [] then lines.dropLast else lines := by
  induction lines with
  | nil => rfl
  | cons line lines ih =>
    have hline := hlf line List.mem_cons_self
    cases lines with
    | nil =>
      rw [List.intercalate_singleton, linesFrom_of_not_mem hline]
      by_cases hnil : line = []
      · simp [hnil]
      · simp [hnil]
    | cons next lines =>
      have hfirst : linesFrom lf cr [] (line ++ [lf]) = [line] := by
        rw [linesFrom_feed hline, List.append_nil, dropReturn_of_not_mem, List.reverse_reverse]
        rw [List.mem_reverse]
        exact hcr line List.mem_cons_self
      rw [List.intercalate_cons_cons, List.append_assoc, List.singleton_append,
        linesFrom_append_feed, hfirst, ih (fun l hl => hlf l (List.mem_cons_of_mem line hl))
          fun l hl => hcr l (List.mem_cons_of_mem line hl), List.getLast?_cons_cons,
        List.dropLast_cons_cons]
      split <;> rfl

end Feeds

theorem mem_of_mem_lines {text line : String} {c : Char} (hline : line ∈ lines text)
    (hc : c ∈ line.toList) : c ∈ text.toList ∧ c ≠ '\n' := by
  obtain ⟨cs, hcs, rfl⟩ := List.mem_map.mp hline
  rw [String.toList_ofList] at hc
  obtain ⟨hmem, hne⟩ := mem_of_mem_linesFrom List.not_mem_nil hcs hc
  exact ⟨hmem.resolve_left List.not_mem_nil, hne⟩

theorem lines_unlines {texts : List String} (hlf : ∀ text ∈ texts, '\n' ∉ text.toList)
    (hcr : ∀ text ∈ texts, '\r' ∉ text.toList) :
    lines (unlines texts) = if texts.getLast? = some "" then texts.dropLast else texts := by
  have hchars : (unlines texts).toList = ['\n'].intercalate (texts.map String.toList) :=
    String.toList_intercalate
  have hid : String.ofList ∘ String.toList = id := funext fun _ => String.ofList_toList
  have hlast : (texts.map String.toList).getLast? = some [] ↔ texts.getLast? = some "" := by
    rw [List.getLast?_map, Option.map_eq_some_iff]
    constructor
    · rintro ⟨text, htext, hnil⟩
      rw [htext, String.toList_eq_nil_iff.mp hnil]
    · exact fun h => ⟨"", h, rfl⟩
  rw [lines, hchars, linesFrom_intercalate (by simpa using hlf) (by simpa using hcr)]
  by_cases hempty : texts.getLast? = some ""
  · rw [if_pos (hlast.mpr hempty), if_pos hempty, ← List.map_dropLast, List.map_map, hid,
      List.map_id]
  · rw [if_neg (fun h => hempty (hlast.mp h)), if_neg hempty, List.map_map, hid, List.map_id]

end LineShell.Text
