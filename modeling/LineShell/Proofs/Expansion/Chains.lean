import LineShell.Proofs.Expansion.Scan
import LineShell.Session

/-!
# Progress between lines

Lines are fed one after the other, each to the progress that the line before it led to, and under
scopes that may change from line to line (`Follows`). What is reached in this way is limited
(`Between`): no finished word is empty, outside quotes no text is pending, and inside quotes the
pending text ends in the line feed of the last line. Finished words stay (`Follows.words_prefix`).

1. A scan ends in one place only, at the end of the line. What it has read by then has the words
   from before the line in front (`exists_endLine_of_scan`), and the end of the line settles what is
   pending (`between_of_feed`).
2. So a progress without a quote that is open is all words, and reading a logical command, which
   keeps the words alone, loses nothing (`follows_of_gather`).
-/

namespace LineShell.Progress

/-- What holds of the progress between two lines. -/
structure Between (p : Progress) : Prop where
  words : p.WordsNonempty
  /-- Outside quotes every character is in a word. -/
  pending_of_bare : p.quoting = .bare → p.pending = ""
  /-- Inside quotes the end of the last line is part of the word. -/
  pending_of_open : p.quoting ≠ .bare → ∃ text, p.pending = text ++ "\n"

/-- From the progress `p`, feeding lines one after the other leads to `q`. -/
inductive Follows (p : Progress) : Progress → Prop where
  | refl : Follows p p
  | feed {q r : Progress} {scope : Scope} {line : String} (h : Follows p q)
      (hfeed : q.feed scope line = .ok r) : Follows p r

section Lines

variable {scope : Scope} {k : Nat} {p q r : Progress} {line : String} {cs : List Char}

/-! ## One line -/

theorem words_prefix_endWord (p : Progress) : p.words <+: p.endWord.words := by
  rw [words_endWord]
  exact List.prefix_append _ _

theorem words_prefix_endLine (p : Progress) : p.words <+: p.endLine.words := by
  by_cases hq : p.quoting = .bare
  · rw [endLine_of_bare hq]
    exact p.words_prefix_endWord
  · rw [endLine_of_ne_bare hq]
    exact List.prefix_rfl

theorem exists_endLine_of_scan (h : scan scope k p cs = .ok q) :
    ∃ r : Progress, q = r.endLine ∧ p.words <+: r.words := by
  induction k, p, cs using scan_induction scope with
  | nil k p =>
    rw [scan_nil, Except.ok.injEq] at h
    exact ⟨p, h.symm, List.prefix_rfl⟩
  | openQuote k p c cs quoting hact ih =>
    rw [scan_openQuote hact] at h
    exact ih h
  | endWord k p c cs hact ih =>
    rw [scan_endWord hact] at h
    obtain ⟨r, hr, hwords⟩ := ih h
    exact ⟨r, hr, p.words_prefix_endWord.trans hwords⟩
  | literal k p c cs hact ih =>
    rw [scan_literal hact] at h
    exact ih h
  | unbound k p c cs hact hname =>
    rw [scan_unbound hact hname] at h
    cases h
  | reference k p c cs name hact hname ih =>
    rw [scan_reference hact hname] at h
    exact ih h

theorem words_prefix_of_feed (h : p.feed scope line = .ok q) : p.words <+: q.words := by
  obtain ⟨r, rfl, hwords⟩ := exists_endLine_of_scan h
  exact hwords.trans r.words_prefix_endLine

/-- **The end of a line** settles what is pending: it is a word, or it has a line feed more. -/
theorem between_of_feed (hp : p.WordsNonempty) (h : p.feed scope line = .ok q) : q.Between := by
  obtain ⟨r, rfl, -⟩ := exists_endLine_of_scan h
  refine ⟨hp.scan h, fun hq => ?_, fun hq => ?_⟩
  · rw [quoting_endLine] at hq
    rw [endLine_of_bare hq, pending_endWord]
  · rw [quoting_endLine] at hq
    rw [endLine_of_ne_bare hq]
    exact ⟨r.pending, r.pending_append "\n"⟩

/-! ## Lines one after the other -/

theorem between_start : Between {} where
  words := fun word hword => by cases hword
  pending_of_bare := fun _ => rfl
  pending_of_open := fun h => absurd rfl h

/-- **Between any two lines** of a chain the progress is as described, by induction on the lines. -/
theorem Follows.between (h : Follows p q) (hp : p.Between) : q.Between := by
  induction h with
  | refl => exact hp
  | feed _ hfeed ih => exact between_of_feed ih.words hfeed

/-- **Finished words stay**, in front of those that further lines add. -/
theorem Follows.words_prefix (h : Follows p q) : p.words <+: q.words := by
  induction h with
  | refl => exact List.prefix_rfl
  | feed _ hfeed ih => exact ih.trans (words_prefix_of_feed hfeed)

theorem isComplete_iff : p.isComplete = true ↔ p.quoting = .bare := by
  rw [isComplete, decide_eq_true_iff]

theorem Between.pending_eq_empty_iff (h : p.Between) : p.pending = "" ↔ p.isComplete = true := by
  rw [isComplete_iff]
  refine ⟨fun hpending => ?_, h.pending_of_bare⟩
  by_contra hopen
  obtain ⟨text, htext⟩ := h.pending_of_open hopen
  have hchars := congrArg String.toList (hpending.symm.trans htext)
  rw [String.toList_append] at hchars
  exact List.append_ne_nil_of_right_ne_nil _ (by decide) hchars.symm

theorem Between.eq_of_isComplete (h : p.Between) (hp : p.isComplete = true) :
    p = { words := p.words } := by
  obtain ⟨quoting, pending, words⟩ := p
  obtain rfl : quoting = .bare := isComplete_iff.mp hp
  obtain rfl : pending = "" := h.pending_of_bare rfl
  rfl

/-! ## Reading a logical command -/

theorem Follows.of_gather {start : Progress} {more words : List String} (hp : Follows start p)
    (h : (p.gather scope more).words = .ok (some words)) :
    ∃ q, Follows start q ∧ q.isComplete = true ∧ q.words = words := by
  fun_induction Progress.gather scope p more with
  | case1 more p hcomplete =>
    simp only [Except.ok.injEq, Option.some.injEq] at h
    exact ⟨p, hp, hcomplete, h⟩
  | case2 p hopen => cases h
  | case3 p hopen line more e hfeed => cases h
  | case4 p hopen line more q hfeed later ih => exact ih (hp.feed hfeed) h

end Lines

end LineShell.Progress

namespace LineShell

open Progress

/-- **Nothing is lost when the words are taken**: they are all that there is in the progress at the
end of the lines. -/
theorem follows_of_gather {scope : Scope} {line : String} {more words : List String}
    (h : (gather scope line more).words = .ok (some words)) : Follows {} { words } := by
  unfold gather at h
  cases hexpand : expand scope line with
  | error e =>
    rw [hexpand] at h
    cases h
  | ok p =>
    rw [hexpand] at h
    obtain ⟨q, hq, hcomplete, rfl⟩ := Follows.of_gather (.feed .refl hexpand) h
    rwa [← (hq.between between_start).eq_of_isComplete hcomplete]

end LineShell
