import LineShell.Proofs.Builtin.Selection
import LineShell.Proofs.Pattern.Dialect
import LineShell.Sandbox

/-!
# Whole words

`grep` looks for whole words by writing the text of its pattern between `\b(` and `)\b`. A pattern
that is valid by itself keeps its expression there, so fewer lines are selected. But a text that is
no pattern by itself may be one there, as `a)|(b`: its parenthesis closes the group that was written
around it. It then selects lines where the text alone is refused, so `-w` narrows a search only as
far as it accepts no more patterns (`wholeWords_narrows_iff`). This is so with every library for
patterns that does what is said of it.
-/

namespace LineShell.Builtin

open Pattern

namespace Grep

/-- The lines of a text that match, if the pattern is accepted. -/
def selected? (b : Build) (g : Grep) (text : String) : Option (List String) :=
  (b.compile g.ignoreCase g.fullPattern).map fun isMatch => (Text.lines text).filter isMatch

theorem execute_eq_selected? {σ : Type} [System σ] {world : σ} {input : Option String} {g : Grep}
    {text : String} (hcontext : g.afterContext = 0)
    (h : source "grep" world g.file input = .ok text) :
    g.execute world input =
      (g.selected? (System.build σ) text).elim (.error (.invalidPattern g.fullPattern))
        fun lines => .ok (Text.unlines lines) := by
  unfold execute selected?
  cases (System.build σ).compile g.ignoreCase g.fullPattern with
  | none => rfl
  | some isMatch =>
    simp only [h, hcontext, select_zero]
    rfl

variable {b : Build} {d : Dialect} {ignoreCase : Bool} {pattern : String}

theorem sublist_of_valid (h : d.Describes b.compile)
    (hvalid : b.compile ignoreCase pattern ≠ none) {text : String} {words : List String}
    (hwords : selected? b { pattern, ignoreCase, wholeWords := true } text = some words) :
    ∃ lines, selected? b { pattern, ignoreCase } text = some lines ∧ words.Sublist lines := by
  obtain ⟨plain, hplain⟩ := Option.ne_none_iff_exists'.mp hvalid
  obtain ⟨enclosed, henclosed, rfl⟩ := Option.map_eq_some_iff.mp hwords
  refine ⟨_, Option.map_eq_some_iff.mpr ⟨plain, hplain, rfl⟩, ?_⟩
  exact List.monotone_filter_right _ fun line hmatch =>
    h.matches_of_enclosed hplain henclosed hmatch

/-- **When `-w` only narrows a search.** With every library for patterns that does what is said of
it: `grep` puts out the lines that it selects of its text, with `-w` or without, or refuses the
pattern. For a pattern that is accepted with `-w`, the search without `-w` accepts it too and
selects all the lines that the search with `-w` selects, exactly if the text is a pattern by itself
or is refused with `-w`. -/
theorem wholeWords_narrows_iff {σ : Type} [System σ] (h : d.Describes (System.build σ).compile)
    (ignoreCase : Bool) (pattern : String) :
    (∀ (world : σ) (text : String) (wholeWords : Bool),
      execute world (some text) { pattern, ignoreCase, wholeWords } =
        (selected? (System.build σ) { pattern, ignoreCase, wholeWords } text).elim
          (.error (.invalidPattern (fullPattern { pattern, ignoreCase, wholeWords })))
          fun lines => .ok (Text.unlines lines)) ∧
    ((∀ text words,
        selected? (System.build σ) { pattern, ignoreCase, wholeWords := true } text = some words →
          ∃ lines, selected? (System.build σ) { pattern, ignoreCase } text = some lines ∧
            words.Sublist lines) ↔
      ((System.build σ).compile ignoreCase pattern = none →
        (System.build σ).compile ignoreCase ("\\b(" ++ pattern ++ ")\\b") = none)) := by
  refine ⟨fun world text wholeWords => execute_eq_selected? rfl rfl, ?_, ?_⟩
  · intro hnarrows hrefused
    apply Option.eq_none_iff_forall_not_mem.mpr
    intro enclosed henclosed
    obtain ⟨lines, hlines, -⟩ :=
      hnarrows "" _ (Option.map_eq_some_iff.mpr ⟨enclosed, henclosed, rfl⟩)
    obtain ⟨plain, hplain, -⟩ := Option.map_eq_some_iff.mp hlines
    cases hrefused.symm.trans hplain
  · intro hrefused text words hwords
    obtain ⟨enclosed, henclosed, -⟩ := Option.map_eq_some_iff.mp hwords
    refine sublist_of_valid h (fun hnone => ?_) hwords
    cases (hrefused hnone).symm.trans henclosed

theorem describes_checked : dialect.Describes Build.checked.compile := describes_compile

/-- Two alternatives, of which one stands in the middle of a word. -/
theorem wholeWords_narrows_iff_alternatives :
    (Build.checked.compile false "ab|c").isSome = true ∧
      selected? .checked { pattern := "ab|c", wholeWords := true } "abc\nd c" = some ["d c"] ∧
      ∃ lines, selected? .checked { pattern := "ab|c" } "abc\nd c" = some lines ∧
        ["d c"].Sublist lines := by
  have hvalid : (Build.checked.compile false "ab|c").isSome = true := by decide +kernel
  have hwords : selected? .checked { pattern := "ab|c", wholeWords := true } "abc\nd c" =
      some ["d c"] := by decide +kernel
  have hnarrows := (wholeWords_narrows_iff (σ := Sandbox) describes_checked false "ab|c").2.mpr
    fun hnone => by
      rw [show Build.checked.compile false "ab|c" = none from hnone] at hvalid
      cases hvalid
  exact ⟨hvalid, hwords, hnarrows _ _ hwords⟩

/-- The pattern `a)|(b` is refused, but with `-w` it is read as `\\b(a)` or `(b)\\b` and selects a
line without a word `a` or `b`. -/
theorem wholeWords_widens :
    let here : Sandbox := .ofEntries ["home"] "" []
    grep here ["a)|(b"] (some "axx") = .error (.invalidPattern "a)|(b") ∧
      grep here ["-w", "a)|(b"] (some "axx") = .ok "axx" ∧
      selected? .checked { pattern := "a)|(b" } "axx" = none ∧
      selected? .checked { pattern := "a)|(b", wholeWords := true } "axx" = some ["axx"] := by
  decide +kernel

end Grep

end LineShell.Builtin
