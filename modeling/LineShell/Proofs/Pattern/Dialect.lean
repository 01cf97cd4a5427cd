import LineShell.Proofs.Pattern.Enclosed
import LineShell.Proofs.Pattern.Reach

/-!
# What is said of libraries for patterns

`grep` leaves patterns to a library. When it writes `\b(` and `)\b` around a pattern, it relies on
what is said of the library: that a line matches if some part of it does, that parentheses hold a
pattern together, and that what stands in a row matches in a row. `Dialect.Describes` states this of
any library. From it, a pattern that is accepted by itself can only lose matches by what is written
around it (`Dialect.Describes.matches_of_enclosed`).

Nothing is said of texts that are no patterns by themselves, nor of which texts are. The patterns of
this project are such a library (`describes_compile`).
-/

namespace LineShell.Pattern

/-- How a library reads patterns, and what its expressions match. -/
structure Dialect where
  Expr : Type
  /-- The expression of a pattern, unless the pattern is refused. If the flag is set, case makes no
  difference. -/
  read : Bool → String → Option Expr
  /-- The expression matches what stands between two places of the line. -/
  Matches : Expr → String → Nat → Nat → Prop
  /-- The expression of `\b`. -/
  boundary : Expr
  /-- An expression in parentheses. -/
  group : Expr → Expr
  /-- An expression with another behind it. -/
  concat : Expr → Expr → Expr

namespace Dialect

variable {d : Dialect} {compile : Bool → String → Option (String → Bool)}

/-- The library does what is said of its patterns. -/
structure Describes (d : Dialect) (compile : Bool → String → Option (String → Bool)) : Prop where
  accepts_iff : ∀ ignoreCase pattern,
    (compile ignoreCase pattern).isSome = (d.read ignoreCase pattern).isSome
  /-- A line matches if some part of it does. -/
  isMatch_iff : ∀ {ignoreCase pattern isMatch e}, compile ignoreCase pattern = some isMatch →
    d.read ignoreCase pattern = some e →
    ∀ line, isMatch line = true ↔ ∃ i j, d.Matches e line i j
  group_iff : ∀ {e line i j}, d.Matches (d.group e) line i j ↔ d.Matches e line i j
  concat_iff : ∀ {e e' line i k}, d.Matches (d.concat e e') line i k ↔
    ∃ j, d.Matches e line i j ∧ d.Matches e' line j k
  /-- In parentheses between two boundaries, a pattern keeps its expression. -/
  read_enclosed : ∀ {ignoreCase pattern e e'}, d.read ignoreCase pattern = some e →
    d.read ignoreCase ("\\b(" ++ pattern ++ ")\\b") = some e' →
    e' = d.concat (d.concat d.boundary (d.group e)) d.boundary

theorem Describes.exists_read (h : d.Describes compile) {ignoreCase : Bool} {pattern : String}
    {isMatch : String → Bool} (hcompile : compile ignoreCase pattern = some isMatch) :
    ∃ e, d.read ignoreCase pattern = some e := by
  rw [← Option.isSome_iff_exists, ← h.accepts_iff, hcompile]
  rfl

/-- **A pattern between boundaries matches where the pattern matches**, if it is one by itself. -/
theorem Describes.matches_of_enclosed (h : d.Describes compile) {ignoreCase : Bool}
    {pattern line : String} {plain enclosed : String → Bool}
    (hplain : compile ignoreCase pattern = some plain)
    (henclosed : compile ignoreCase ("\\b(" ++ pattern ++ ")\\b") = some enclosed)
    (hmatch : enclosed line = true) : plain line = true := by
  obtain ⟨e, he⟩ := h.exists_read hplain
  obtain ⟨e', he'⟩ := h.exists_read henclosed
  obtain ⟨i, k, hspan⟩ := (h.isMatch_iff henclosed he' line).mp hmatch
  rw [h.read_enclosed he he'] at hspan
  obtain ⟨j, hfront, -⟩ := h.concat_iff.mp hspan
  obtain ⟨start, -, hgroup⟩ := h.concat_iff.mp hfront
  exact (h.isMatch_iff hplain he line).mpr ⟨start, j, h.group_iff.mp hgroup⟩

end Dialect

/-! ## The patterns of this project -/

variable {ignoreCase : Bool} {pattern : String} {e e' : Expr CharSet Look}

theorem isMatch_iff_of_compile {isMatch : String → Bool}
    (hcompile : (compile ignoreCase pattern).map (·.isMatch) = some isMatch)
    (hread : compile ignoreCase pattern = some e) (line : String) :
    isMatch line = true ↔ ∃ i j, e.Spans line i j := by
  rw [hread, Option.map_some, Option.some.injEq] at hcompile
  rw [← hcompile]
  exact Expr.isMatch_iff_spans

/-- A text that leaves the group is no pattern by itself, so a pattern stays in it. -/
theorem eq_bounded_of_compile (hread : compile ignoreCase pattern = some e)
    (henclosed : compile ignoreCase ("\\b(" ++ pattern ++ ")\\b") = some e') : e' = e.bounded := by
  have hstays : ¬LeavesGroup ignoreCase pattern := by
    intro hleaves
    rw [hleaves.compile_eq_none] at hread
    cases hread
  obtain ⟨plain, hplain, rfl⟩ := compile_enclosed henclosed hstays
  rw [hread, Option.some.injEq] at hplain
  rw [hplain]

def dialect : Dialect where
  Expr := Expr CharSet Look
  read := compile
  Matches := Expr.Spans
  boundary := .look wordBoundary
  group e := e
  concat := .seq

theorem describes_compile : dialect.Describes fun ignoreCase pattern =>
    (compile ignoreCase pattern).map (·.isMatch) where
  accepts_iff _ _ := Option.isSome_map
  isMatch_iff := isMatch_iff_of_compile
  group_iff := Iff.rfl
  concat_iff := Expr.spans_seq_iff
  read_enclosed := eq_bounded_of_compile

end LineShell.Pattern
