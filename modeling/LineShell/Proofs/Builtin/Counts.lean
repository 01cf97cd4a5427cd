import LineShell.Builtin.Basic
import LineShell.Proofs.Text.Blanks
import LineShell.Sandbox
import Mathlib.Algebra.GroupWithZero.Nat
import Mathlib.Data.List.Forall2
import Std.Data.String.ToNat

/-!
# Counts of joined texts

`wc` prints three numbers about the text that it reads, from a file or from its input
(`WcReads`): of lines, counted as the pieces between line feeds, of words and of characters
(`CountsOf`).

1. The numbers can be read off what is printed (`showCounts_inj`), so what `wc` prints about some
   texts says what it has to print about others.
2. The counts of two texts with a line feed between them are the sums, with one more character for
   the line feed, which is a blank and so neither joins words nor cuts one (`counts_append_feed`).

By induction the counts of any number of texts, joined by line feeds, are the sums with one more
character for each two neighbours (`wc_unlines`).
-/

namespace LineShell.Builtin

/-! ## What is printed -/

theorem space_not_mem_toString (n : Nat) : ' ' ∉ (toString n).toList := by
  rw [Nat.toString_eq_ofList_toDigits, String.toList_ofList]
  intro h
  exact absurd (Nat.isDigit_of_mem_toDigits (by decide) (by decide) h) (by decide)

theorem showCounts_inj {n m : Nat × Nat × Nat} (h : showCounts n = showCounts m) : n = m := by
  obtain ⟨lines, words, chars⟩ := n
  obtain ⟨lines', words', chars'⟩ := m
  -- no number has a space, so the spaces cut the text into the numbers
  have hcut (a b c : Nat) : Text.splitAt ' ' (showCounts (a, b, c)) =
      [toString a, toString b, toString c] := by
    refine Text.splitAt_intercalate rfl (List.cons_ne_nil _ _) fun piece hpiece => ?_
    simp only [List.mem_cons, List.not_mem_nil, or_false] at hpiece
    rcases hpiece with rfl | rfl | rfl <;> exact space_not_mem_toString _
  have hpieces := congrArg (Text.splitAt ' ') h
  rw [hcut, hcut] at hpieces
  simp only [List.cons.injEq, and_true] at hpieces
  obtain ⟨hlines, hwords, hchars⟩ := hpieces
  rw [Nat.repr_inj.mp hlines, Nat.repr_inj.mp hwords, Nat.repr_inj.mp hchars]

/-! ## What is counted -/

/-- The numbers of pieces between line feeds, of maximal runs without blanks and of characters. -/
structure CountsOf (text : String) (n : Nat × Nat × Nat) : Prop where
  lines : n.1 = text.toList.count '\n' + 1
  words : ∃ words : List (Nat × Nat), words.Nodup ∧
    (∀ start stop, (start, stop) ∈ words ↔ Text.IsWordAt text.toList start stop) ∧
      n.2.1 = words.length
  chars : n.2.2 = text.toList.length

theorem countsOf_counts (text : String) : CountsOf text (counts text) where
  lines := Text.length_splitAt '\n' text
  words := by
    obtain ⟨words, hnodup, hwords, hlength⟩ := Text.exists_words text
    exact ⟨words, hnodup, hwords, hlength.symm⟩
  chars := String.length_toList.symm

theorem counts_append_feed (s t : String) :
    counts (s ++ "\n" ++ t) = ((counts s).1 + (counts t).1, (counts s).2.1 + (counts t).2.1,
      (counts s).2.2 + (counts t).2.2 + 1) := by
  have hlines : (Text.splitAt '\n' (s ++ "\n" ++ t)).length =
      (Text.splitAt '\n' s).length + (Text.splitAt '\n' t).length := by
    rw [Text.splitAt_append rfl, List.length_append]
  have hwords : Text.wordCount (s ++ "\n" ++ t) = Text.wordCount s + Text.wordCount t := by
    rw [Text.wordCount, String.toList_append, String.toList_append, List.append_assoc]
    exact Text.wordCountFrom_append_blank (by decide) false s.toList t.toList
  have hchars : (s ++ "\n" ++ t).length = s.length + t.length + 1 := by
    rw [String.length_append, String.length_append]
    exact Nat.add_right_comm s.length 1 t.length
  rw [counts, hlines, hwords, hchars]
  rfl

/-- The counts of texts that are joined by line feeds, in terms of theirs. -/
def joinedCounts (ns : List (Nat × Nat × Nat)) : Nat × Nat × Nat :=
  ((ns.map fun n => n.1).sum, (ns.map fun n => n.2.1).sum,
    (ns.map fun n => n.2.2).sum + (ns.length - 1))

theorem counts_unlines {texts : List String} (h : texts ≠ []) :
    counts (Text.unlines texts) = joinedCounts (texts.map counts) := by
  induction texts with
  | nil => exact absurd rfl h
  | cons text texts ih =>
    cases texts with
    | nil => simp [Text.unlines, joinedCounts]
    | cons next texts =>
      have hjoin : Text.unlines (text :: next :: texts) =
          text ++ "\n" ++ Text.unlines (next :: texts) := String.intercalate_cons_cons
      rw [hjoin, counts_append_feed, ih (List.cons_ne_nil next texts)]
      simp only [joinedCounts, List.map_cons, List.sum_cons, List.length_cons, Prod.mk.injEq,
        true_and]
      omega

/-! ## The command -/

section Command

variable {σ : Type} [System σ] {world : σ} {args : List String} {input : Option String}
  {text : String}

/-- The text that `wc` counts, from the file that its arguments name or from its input. -/
def WcReads (world : σ) (args : List String) (input : Option String) (text : String) : Prop :=
  ∃ file, wcInterface.read none args = .ok (.settings file) ∧
    source "wc" world file input = .ok text

theorem WcReads.wc_eq (h : WcReads world args input text) :
    wc world args input = .ok (showCounts (counts text)) := by
  obtain ⟨file, hargs, hsource⟩ := h
  rw [wc, run, hargs]
  show (source "wc" world file input).map _ = _
  rw [hsource]
  rfl

theorem wcReads_input (world : σ) (text : String) : WcReads world [] (some text) text :=
  ⟨none, rfl, rfl⟩

/-- `wc` prints these counts where it reads the text. -/
def WcPrints (σ : Type) [System σ] (text : String) (n : Nat × Nat × Nat) : Prop :=
  ∃ (world : σ) (args : List String) (input : Option String),
    WcReads world args input text ∧ wc world args input = .ok (showCounts n)

theorem eq_map_counts_of_prints {texts : List String} {ns : List (Nat × Nat × Nat)}
    (h : List.Forall₂ (WcPrints σ) texts ns) : ns = texts.map counts := by
  induction h with
  | nil => rfl
  | @cons text n texts ns hfirst _ ih =>
    obtain ⟨world, args, input, hreads, hwc⟩ := hfirst
    rw [hreads.wc_eq, Except.ok.injEq] at hwc
    rw [List.map_cons, showCounts_inj hwc, ih]

/-- **`wc` is additive over texts that are joined by line feeds.** It can be fed any text, and about
every text that it reads it prints how many lines, words and characters there are. What it prints
about some texts, each read from anywhere, says what it prints about them with single line feeds
between: the sums of the three numbers, with one more character for each line feed. -/
theorem wc_unlines :
    (∀ (world : σ) (text : String), WcReads world [] (some text) text) ∧
    (∀ (world : σ) (args : List String) (input : Option String) (text : String),
      WcReads world args input text →
        ∃ n, wc world args input = .ok (showCounts n) ∧ CountsOf text n) ∧
    ∀ (texts : List String) (ns : List (Nat × Nat × Nat)), texts ≠ [] →
      List.Forall₂ (WcPrints σ) texts ns →
        ∀ (world : σ) (args : List String) (input : Option String),
          WcReads world args input (Text.unlines texts) →
            wc world args input = .ok (showCounts (joinedCounts ns)) := by
  refine ⟨wcReads_input, fun world args input text h =>
    ⟨counts text, h.wc_eq, countsOf_counts text⟩, ?_⟩
  intro texts ns hne hprints world args input hreads
  rw [hreads.wc_eq, counts_unlines hne, eq_map_counts_of_prints hprints]

end Command

/-- A text between blanks, an empty one, and one whose words have line feeds and a wide space
between them. The last is in a file, and so are the three together. -/
theorem wc_unlines_three :
    let texts := [" a b\t", "", "c\n\n\u3000d e"]
    let world : Sandbox := .ofEntries ["home"] ""
      [("last", .file (Text.Utf8.encode texts[2]) false),
        ("all", .file (Text.Utf8.encode (Text.unlines texts)) false)]
    wc world [] (some texts[0]) = .ok "1 2 5" ∧ wc world [] (some texts[1]) = .ok "1 0 0" ∧
      wc world ["last"] none = .ok "3 3 7" ∧ wc world ["all"] none = .ok "5 5 14" := by
  intro texts world
  have hlast : WcReads world ["last"] none texts[2] := ⟨some "last", rfl, by decide +kernel⟩
  have hall : WcReads world ["all"] none (Text.unlines texts) :=
    ⟨some "all", rfl, by decide +kernel⟩
  have hprints : List.Forall₂ (WcPrints Sandbox) texts [(1, 2, 5), (1, 0, 0), (3, 3, 7)] :=
    .cons ⟨world, [], _, wcReads_input world _, by decide +kernel⟩
      (.cons ⟨world, [], _, wcReads_input world _, by decide +kernel⟩
        (.cons ⟨world, ["last"], none, hlast, by decide +kernel⟩ .nil))
  refine ⟨by decide +kernel, by decide +kernel, by decide +kernel, ?_⟩
  rw [wc_unlines.2.2 texts _ (List.cons_ne_nil _ _) hprints world ["all"] none hall]
  decide +kernel

end LineShell.Builtin
