import LineShell.Proofs.Expansion.Names

/-!
# The scan, one character at a time

`Progress.scan` reads a line from left to right. Every statement about it goes by the same cases,
one for the end of the line and one for each thing a character can do; `scan_induction` packages
them, and the equations before it say what each of them does to the progress.

The position counts characters and is only ever reported (`scan_add_position`), so a scan that
starts later in a line reports its errors later and is otherwise the same.
-/

namespace LineShell

/-- The same error in a line with `n` more characters in front. -/
def ExpansionError.shift (n : Nat) (e : ExpansionError) : ExpansionError := ⟨e.position + n⟩

namespace Progress

/-! ## What characters do -/

section Action

variable {q : Quoting} {c : Char}

theorem action_eq_reference_iff : action q c = .reference ↔ c = '$' ∧ q ≠ .single := by
  unfold action
  split <;> simp_all

theorem action_eq_endWord_iff : action q c = .endWord ↔ q = .bare ∧ c = ' ' := by
  unfold action
  split <;> simp_all

theorem action_single (hc : c ≠ '\'') : action .single c = .literal := by
  unfold action
  split <;> simp_all

theorem action_newline (q : Quoting) : action q '\n' = .literal := by
  cases q <;> rfl

end Action

/-! ## Updates of the progress -/

section Updates

variable (p : Progress) (s t : String) (q : Quoting)

@[simp] theorem quoting_append : (p.append s).quoting = p.quoting := rfl
@[simp] theorem pending_append : (p.append s).pending = p.pending ++ s := rfl
@[simp] theorem words_append : (p.append s).words = p.words := rfl

theorem append_append : (p.append s).append t = p.append (s ++ t) := by
  simp only [append, String.append_assoc]

@[simp] theorem append_empty : p.append "" = p := by
  simp only [append, String.append_empty]

theorem endWord_eq : p.endWord =
    { quoting := p.quoting, words := p.words ++ [p.pending].filter (!·.isEmpty) } := by
  obtain ⟨quoting, pending, words⟩ := p
  unfold endWord
  by_cases h : pending.isEmpty = true
  · have hnil : pending = "" := String.isEmpty_iff.mp h
    subst hnil
    simp
  · simp [h]

@[simp] theorem quoting_endWord : p.endWord.quoting = p.quoting := by rw [endWord_eq]

@[simp] theorem pending_endWord : p.endWord.pending = "" := by rw [endWord_eq]

theorem words_endWord : p.endWord.words = p.words ++ [p.pending].filter (!·.isEmpty) := by
  rw [endWord_eq]

theorem endLine_of_bare {p : Progress} (h : p.quoting = .bare) : p.endLine = p.endWord := by
  unfold endLine
  rw [h]

theorem endLine_of_ne_bare {p : Progress} (h : p.quoting ≠ .bare) :
    p.endLine = p.append "\n" := by
  unfold endLine
  split
  · rename_i hq
    exact absurd hq h
  · rfl

@[simp] theorem quoting_endLine : p.endLine.quoting = p.quoting := by
  by_cases h : p.quoting = .bare
  · rw [endLine_of_bare h, quoting_endWord]
  · rw [endLine_of_ne_bare h, quoting_append]

end Updates

/-! ## One character -/

section Equations

variable {scope : Scope} {k : Nat} {p : Progress} {c : Char} {cs : List Char}

@[simp] theorem scan_nil : scan scope k p [] = .ok p.endLine := by
  rw [scan]

theorem scan_openQuote {q : Quoting} (h : action p.quoting c = .openQuote q) :
    scan scope k p (c :: cs) = scan scope (k + 1) { p with quoting := q } cs := by
  rw [scan, h]

theorem scan_endWord (h : action p.quoting c = .endWord) :
    scan scope k p (c :: cs) = scan scope (k + 1) p.endWord cs := by
  rw [scan, h]

theorem scan_literal (h : action p.quoting c = .literal) :
    scan scope k p (c :: cs) = scan scope (k + 1) (p.append (String.singleton c)) cs := by
  rw [scan, h]

theorem scan_unbound (h : action p.quoting c = .reference)
    (hname : scope.longestName "" cs = none) : scan scope k p (c :: cs) = .error ⟨k⟩ := by
  rw [scan, h]
  simp only [hname]

theorem scan_reference {name : String} (h : action p.quoting c = .reference)
    (hname : scope.longestName "" cs = some name) :
    scan scope k p (c :: cs) = scan scope (k + 1 + name.length)
      (p.append ((scope.get? name).getD "")) (cs.drop name.length) := by
  rw [scan, h]
  simp only [hname]

end Equations

/-- Induction along a scan: the line ends, or its first character opens or closes a quote, ends a
word, stands for itself, refers to no variable, or refers to one. -/
@[elab_as_elim] theorem scan_induction (scope : Scope)
    {motive : Nat → Progress → List Char → Prop}
    (nil : ∀ k p, motive k p [])
    (openQuote : ∀ k p c cs q, action p.quoting c = .openQuote q →
      motive (k + 1) { p with quoting := q } cs → motive k p (c :: cs))
    (endWord : ∀ k p c cs, action p.quoting c = .endWord →
      motive (k + 1) p.endWord cs → motive k p (c :: cs))
    (literal : ∀ k p c cs, action p.quoting c = .literal →
      motive (k + 1) (p.append (String.singleton c)) cs → motive k p (c :: cs))
    (unbound : ∀ k p c cs, action p.quoting c = .reference →
      scope.longestName "" cs = none → motive k p (c :: cs))
    (reference : ∀ k p c cs name, action p.quoting c = .reference →
      scope.longestName "" cs = some name →
      motive (k + 1 + name.length) (p.append ((scope.get? name).getD ""))
        (cs.drop name.length) → motive k p (c :: cs))
    (k : Nat) (p : Progress) (cs : List Char) : motive k p cs :=
  scan.induct scope motive nil openQuote endWord literal unbound
    (fun k p c cs h name => reference k p c cs name h) k p cs

/-! ## Positions -/

theorem scan_add_position (scope : Scope) (n k : Nat) (p : Progress) (cs : List Char) :
    scan scope (k + n) p cs = (scan scope k p cs).mapError (.shift n) := by
  induction k, p, cs using scan_induction scope with
  | nil k p => rw [scan_nil, scan_nil]; rfl
  | openQuote k p c cs q h ih => rw [scan_openQuote h, scan_openQuote h, ← ih, Nat.add_right_comm]
  | endWord k p c cs h ih => rw [scan_endWord h, scan_endWord h, ← ih, Nat.add_right_comm]
  | literal k p c cs h ih => rw [scan_literal h, scan_literal h, ← ih, Nat.add_right_comm]
  | unbound k p c cs h hname => rw [scan_unbound h hname, scan_unbound h hname]; rfl
  | reference k p c cs name h hname ih =>
    rw [scan_reference h hname, scan_reference h hname, ← ih]
    congr 1
    omega

theorem scan_eq_shift_feed (scope : Scope) (n : Nat) (p : Progress) (line : String) :
    scan scope n p line.toList = (p.feed scope line).mapError (.shift n) := by
  have h := scan_add_position scope n 0 p line.toList
  rwa [Nat.zero_add] at h

/-! ## Words have characters -/

/-- No finished word is empty. -/
def WordsNonempty (p : Progress) : Prop := ∀ word ∈ p.words, word ≠ ""

theorem WordsNonempty.endWord {p : Progress} (h : p.WordsNonempty) : p.endWord.WordsNonempty := by
  intro word hword
  rw [words_endWord, List.mem_append] at hword
  rcases hword with hword | hword
  · exact h word hword
  · rintro rfl
    simp at hword

theorem WordsNonempty.endLine {p : Progress} (h : p.WordsNonempty) : p.endLine.WordsNonempty := by
  by_cases hq : p.quoting = .bare
  · rw [endLine_of_bare hq]
    exact h.endWord
  · rw [endLine_of_ne_bare hq]
    exact h

theorem WordsNonempty.scan {scope : Scope} {k : Nat} {p q : Progress} {cs : List Char}
    (h : p.WordsNonempty) (hq : scan scope k p cs = .ok q) : q.WordsNonempty := by
  induction k, p, cs using scan_induction scope with
  | nil k p =>
    rw [scan_nil, Except.ok.injEq] at hq
    rw [← hq]
    exact h.endLine
  | openQuote k p c cs quoting hact ih =>
    rw [scan_openQuote hact] at hq
    exact ih h hq
  | endWord k p c cs hact ih =>
    rw [scan_endWord hact] at hq
    exact ih h.endWord hq
  | literal k p c cs hact ih =>
    rw [scan_literal hact] at hq
    exact ih h hq
  | unbound k p c cs hact hname =>
    rw [scan_unbound hact hname] at hq
    cases hq
  | reference k p c cs name hact hname ih =>
    rw [scan_reference hact hname] at hq
    exact ih h hq

/-! ## Stretches of text -/

theorem scan_literals (scope : Scope) {ls : List Char} {p : Progress}
    (h : ∀ c ∈ ls, action p.quoting c = .literal) (k : Nat) (rest : List Char) :
    scan scope k p (ls ++ rest) =
      scan scope (k + ls.length) (p.append (String.ofList ls)) rest := by
  induction ls generalizing k p with
  | nil => rw [String.ofList_nil, append_empty]; rfl
  | cons c ls ih =>
    rw [List.cons_append, scan_literal (h c List.mem_cons_self),
      ih (p := p.append _) (fun d hd => h d (List.mem_cons_of_mem c hd)), append_append,
      String.ofList_cons, List.length_cons, Nat.add_assoc, Nat.add_comm 1]

end Progress

end LineShell
