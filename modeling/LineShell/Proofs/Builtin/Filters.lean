import LineShell.Proofs.Builtin.Selection
import LineShell.Proofs.Session.Eval
import LineShell.Proofs.Text.Lines
import LineShell.Sandbox

/-!
# Filters after filters

Without lines after a match, `grep` passes on the lines that match, so two of them in a row should
pass on the lines that match both patterns, in either order. Between them the lines are joined to
one text and read again. Lines of a text without carriage returns survive this, except for an empty
one at the end of what the first passes on (`lines_unlines`). If there is none, two filters are one
filter for both patterns (`filter_after_filter`).
-/

namespace LineShell.Builtin

/-- The line matches the pattern of the settings. -/
def Grep.keeps (b : Build) (g : Grep) (line : String) : Bool :=
  (b.compile g.ignoreCase g.fullPattern).any fun isMatch => isMatch line

/-- Settings with which `grep` passes on lines of its input one by one. -/
structure Grep.IsFilter (b : Build) (g : Grep) : Prop where
  no_file : g.file = none
  no_context : g.afterContext = 0
  valid : (b.compile g.ignoreCase g.fullPattern).isSome = true

instance (b : Build) (g : Grep) : Decidable (g.IsFilter b) :=
  decidable_of_iff (g.file = none ∧ g.afterContext = 0 ∧
      (b.compile g.ignoreCase g.fullPattern).isSome = true)
    ⟨fun h => ⟨h.1, h.2.1, h.2.2⟩, fun h => ⟨h.no_file, h.no_context, h.valid⟩⟩

/-- The lines that are selected of those that are selected of a text and joined. -/
def selectTwice (o : Overflow) (p q : String → Bool) (text : String) :
    Except Fault (List String) :=
  match select o p 0 (Text.lines text) with
  | .error fault => .error fault
  | .ok lines => select o q 0 (Text.lines (Text.unlines lines))

/-- The command is `grep` with these settings, however its arguments are written. -/
structure Greps (c : Command) (g : Grep) : Prop where
  kind : c.kind = .grep
  reads : Grep.interface.read {} c.args = .ok (.settings g)

/-- Of the lines that are passed on, the last one, if there is one, is not empty. -/
def LastShown (keeps : String → Bool) (text : String) : Prop :=
  ((Text.lines text).filter keeps).getLast? ≠ some ""

instance (keeps : String → Bool) (text : String) : Decidable (LastShown keeps text) :=
  inferInstanceAs (Decidable (_ ≠ _))

section Lines

variable {text : String} {p q : String → Bool}

theorem lines_unlines_filter (hcr : '\r' ∉ text.toList) (hlast : LastShown p text) :
    Text.lines (Text.unlines ((Text.lines text).filter p)) = (Text.lines text).filter p := by
  have hchars {line : String} {c : Char} (hline : line ∈ (Text.lines text).filter p)
      (hc : c ∈ line.toList) : c ∈ text.toList ∧ c ≠ '\n' :=
    Text.mem_of_mem_lines (List.mem_filter.mp hline).1 hc
  rw [Text.lines_unlines (fun line hline hlf => (hchars hline hlf).2 rfl)
    (fun line hline hc => hcr (hchars hline hc).1), if_neg hlast]

theorem filter_and_comm (p q : String → Bool) (lines : List String) :
    (lines.filter fun line => p line && q line) = lines.filter fun line => q line && p line :=
  List.filter_congr fun line _ => Bool.and_comm (p line) (q line)

theorem selectTwice_eq (o : Overflow) (hcr : '\r' ∉ text.toList) (hlast : LastShown p text) :
    selectTwice o p q text = .ok ((Text.lines text).filter fun line => p line && q line) := by
  simp only [selectTwice, select_zero, lines_unlines_filter hcr hlast, List.filter_filter]
  rw [filter_and_comm]

end Lines

section Stages

variable {σ : Type} [System σ] {g h : Grep} {c d : Command} {text : String}

theorem Grep.IsFilter.execute (hg : g.IsFilter (System.build σ)) (world : σ) (text : String) :
    g.execute world (some text) =
      .ok (Text.unlines ((Text.lines text).filter (g.keeps (System.build σ)))) := by
  obtain ⟨isMatch, hcompile⟩ := Option.isSome_iff_exists.mp hg.valid
  have hkeeps : g.keeps (System.build σ) = isMatch := by
    funext line
    rw [Grep.keeps, hcompile, Option.any_some]
  rw [Grep.execute, hcompile, hg.no_file, hg.no_context, hkeeps]
  simp only [source, select_zero]

theorem Greps.run (hc : Greps c g) (hg : g.IsFilter (System.build σ)) (world : σ) (scope : Scope)
    (text : String) :
    c.run (some text) scope world =
      { result := .ok (Text.unlines ((Text.lines text).filter (g.keeps (System.build σ))))
        scope, world } := by
  simp only [Command.run, hc.kind, Builtin.grep, Builtin.run, hc.reads, hg.execute]

theorem runStages_greps (hc : Greps c g) (hg : g.IsFilter (System.build σ)) (hd : Greps d h)
    (hh : h.IsFilter (System.build σ)) (hcr : '\r' ∉ text.toList)
    (hlast : LastShown (g.keeps (System.build σ)) text) (world : σ) :
    runStages (some text) world [c, d] =
      (.ok (Text.unlines ((Text.lines text).filter fun line =>
        g.keeps (System.build σ) line && h.keeps (System.build σ) line)), world, []) := by
  have hfirst := hc.run hg world .empty text
  rw [runStages_cons_of_ok (by rw [hfirst]), hfirst, runStages_singleton, hd.run hh,
    lines_unlines_filter hcr hlast, List.filter_filter, filter_and_comm]
  rfl

end Stages

/-- **A filter after a filter selects the lines that both select.** This holds of every two
predicates on lines, if the text has no carriage return and the last line that the first one selects
is not empty, and so of `grep` with every two valid patterns, with any flags but those that ask for
more lines. If it can be said of the second one as well, their order does not matter. -/
theorem filter_after_filter {text : String} (hcr : '\r' ∉ text.toList) :
    (∀ (o : Overflow) (p q : String → Bool), LastShown p text →
      selectTwice o p q text = .ok ((Text.lines text).filter fun line => p line && q line) ∧
        (LastShown q text → selectTwice o q p text = selectTwice o p q text)) ∧
    ∀ {σ : Type} [System σ] (world : σ) (c d : Command) (g h : Grep),
      Greps c g → g.IsFilter (System.build σ) → Greps d h → h.IsFilter (System.build σ) →
        LastShown (g.keeps (System.build σ)) text →
          runStages (some text) world [c, d] =
              (.ok (Text.unlines ((Text.lines text).filter fun line =>
                g.keeps (System.build σ) line && h.keeps (System.build σ) line)), world, []) ∧
            (LastShown (h.keeps (System.build σ)) text →
              runStages (some text) world [d, c] = runStages (some text) world [c, d]) := by
  constructor
  · intro o p q hp
    refine ⟨selectTwice_eq o hcr hp, fun hq => ?_⟩
    rw [selectTwice_eq o hcr hp, selectTwice_eq o hcr hq, filter_and_comm]
  · intro σ _ world c d g h hc hg hd hh hlast
    refine ⟨runStages_greps hc hg hd hh hcr hlast world, fun hlast' => ?_⟩
    rw [runStages_greps hc hg hd hh hcr hlast, runStages_greps hd hh hc hg hcr hlast',
      filter_and_comm]

/-- Of the lines `ab`, an empty one, `A B` and `b`, the first filter keeps all with an `a` of either
case, the second all with the word `b` of either case. -/
theorem filter_after_filter_two :
    let a : Command := ⟨.grep, ["-i", "a"]⟩
    let b : Command := ⟨.grep, ["-i", "-w", "--", "b"]⟩
    let here : Sandbox := .ofEntries ["home"] "" []
    runStages (some "ab\n\nA B\nb\n") here [a, b] = (.ok "A B", here, []) ∧
      runStages (some "ab\n\nA B\nb\n") here [b, a] = (.ok "A B", here, []) := by
  intro a b here
  have hconj := (@filter_after_filter "ab\n\nA B\nb\n" (by decide)).2 here a b
    { pattern := "a", ignoreCase := true }
    { pattern := "b", ignoreCase := true, wholeWords := true }
    ⟨rfl, rfl⟩ (by decide +kernel) ⟨rfl, rfl⟩ (by decide +kernel) (by decide +kernel)
  have hlines : ((Text.lines "ab\n\nA B\nb\n").filter fun line =>
      Grep.keeps (System.build Sandbox) { pattern := "a", ignoreCase := true } line &&
        Grep.keeps (System.build Sandbox)
          { pattern := "b", ignoreCase := true, wholeWords := true } line) = ["A B"] := by
    decide +kernel
  have hfirst := hconj.1
  rw [hlines] at hfirst
  exact ⟨hfirst, (hconj.2 (by decide +kernel)).trans hfirst⟩

end LineShell.Builtin
