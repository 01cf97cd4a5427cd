import LineShell.Proofs.Expansion.Scan

/-!
# Scanning line by line and in one go

The lines of a logical command can be fed one by one, or joined and fed at once. What joins two
lines is their *seam*: a space if the command was complete between them, a line feed if a quote was
open. `feed_joined_lines` says that both ways end in the same progress or the same error, the error
being reported as many characters later as the joined text has in front of the last line.

1. At a seam the scan does what the end of the line did (`scan_nil` against `scan_append_seam`).
2. Before the seam only a dollar sign looks ahead. Its search for a name never gets past a space,
   and it gets past a line feed only if a bound name has one (`longestName_append_cons`).
3. Line after line, `feed_joined` adds up the characters of the lines before.
-/

namespace LineShell

theorem ExpansionError.shift_shift (m n : Nat) (e : ExpansionError) :
    (e.shift m).shift n = e.shift (n + m) := by
  simp only [shift, Nat.add_assoc, Nat.add_comm n m]

namespace Progress

/-- The character that stands for the end of the line after which the progress was `p`. -/
def seam (p : Progress) : Char := if p.isComplete then ' ' else '\n'

/-- Feeds lines one after the other. -/
def feedAll (scope : Scope) (p : Progress) : List String → Except ExpansionError Progress
  | [] => .ok p
  | line :: lines =>
    match p.feed scope line with
    | .error e => .error e
    | .ok q => q.feedAll scope lines

/-- The characters that stand for the ends of lines that are fed one after the other. -/
def seams (scope : Scope) (p : Progress) : List String → List Char
  | [] => []
  | line :: lines =>
    match p.feed scope line with
    | .error _ => []
    | .ok q => q.seam :: q.seams scope lines

/-- The lines, each with the character that stands for its end. -/
def joined (scope : Scope) (p : Progress) (lines : List String) : String :=
  String.join (List.zipWith String.push lines (p.seams scope lines))

/-! ## One seam -/

section Seam

variable {scope : Scope}

theorem scan_endLine_seam (k : Nat) (p : Progress) (rest : List Char) :
    scan scope k p (p.endLine.seam :: rest) = scan scope (k + 1) p.endLine rest := by
  by_cases hq : p.quoting = .bare
  · have hseam : p.endLine.seam = ' ' := by simp [seam, isComplete, hq]
    rw [hseam, endLine_of_bare hq, scan_endWord (action_eq_endWord_iff.mpr ⟨hq, rfl⟩)]
  · have hseam : p.endLine.seam = '\n' := by simp [seam, isComplete, hq]
    rw [hseam, endLine_of_ne_bare hq, scan_literal (action_newline p.quoting)]
    rfl

/-- **One seam.** A line that is scanned without an error leaves the rest of a longer text to be
scanned from where it ends. -/
theorem scan_append_seam {k : Nat} {p q : Progress} {cs : List Char}
    (hq : scan scope k p cs = .ok q)
    (hnames : q.seam = '\n' → ∀ name, scope.contains name = true → '\n' ∉ name.toList)
    (rest : List Char) :
    scan scope k p (cs ++ q.seam :: rest) = scan scope (k + cs.length + 1) q rest := by
  have hlook : q.seam = ' ' ∨ ∀ name, scope.contains name = true → q.seam ∉ name.toList := by
    by_cases hc : q.isComplete = true
    · exact .inl (by simp [seam, hc])
    · have hlf : q.seam = '\n' := by simp [seam, hc]
      rw [hlf]
      exact .inr (hnames hlf)
  clear hnames
  -- along the scan of the line; only a reference has to look at what follows the seam
  induction k, p, cs using scan_induction scope with
  | nil k p =>
    rw [scan_nil, Except.ok.injEq] at hq
    subst hq
    exact scan_endLine_seam k p rest
  | openQuote k p c cs quoting h ih =>
    rw [scan_openQuote h] at hq
    rw [List.cons_append, scan_openQuote h, ih hq, List.length_cons]
    congr 1
    omega
  | endWord k p c cs h ih =>
    rw [scan_endWord h] at hq
    rw [List.cons_append, scan_endWord h, ih hq, List.length_cons]
    congr 1
    omega
  | literal k p c cs h ih =>
    rw [scan_literal h] at hq
    rw [List.cons_append, scan_literal h, ih hq, List.length_cons]
    congr 1
    omega
  | unbound k p c cs h hname =>
    rw [scan_unbound h hname] at hq
    cases hq
  | reference k p c cs name h hname ih =>
    rw [scan_reference h hname] at hq
    have hlen := Scope.length_le_of_longestName hname
    have hname' : scope.longestName "" (cs ++ q.seam :: rest) = some name := by
      rw [Scope.longestName_append_cons hlook, hname]
    rw [List.cons_append, scan_reference h hname', List.drop_append_of_le_length hlen, ih hq,
      List.length_cons, List.length_drop]
    congr 1
    omega

end Seam

/-! ## All lines -/

section Lines

variable {scope : Scope} {p q : Progress} {line : String} {lines : List String}

theorem feedAll_cons (h : p.feed scope line = .ok q) :
    p.feedAll scope (line :: lines) = q.feedAll scope lines := by
  simp only [feedAll, h]

theorem seams_cons (h : p.feed scope line = .ok q) :
    p.seams scope (line :: lines) = q.seam :: q.seams scope lines := by
  simp only [seams, h]

theorem joined_cons (h : p.feed scope line = .ok q) :
    p.joined scope (line :: lines) = line.push q.seam ++ q.joined scope lines := by
  rw [joined, seams_cons h, List.zipWith_cons_cons, String.join_cons, joined]

/-- **All seams.** Feeding the joined lines is feeding the last line to the progress that the lines
before it lead to. -/
theorem feed_joined (hq : p.feedAll scope lines = .ok q)
    (hnames : '\n' ∈ p.seams scope lines →
      ∀ name, scope.contains name = true → '\n' ∉ name.toList) (last : String) :
    p.feed scope (p.joined scope lines ++ last) =
      (q.feed scope last).mapError (.shift (p.joined scope lines).length) := by
  induction lines generalizing p with
  | nil =>
    rw [feedAll, Except.ok.injEq] at hq
    subst hq
    have hnil : p.joined scope [] = "" := rfl
    rw [hnil, String.empty_append]
    cases p.feed scope last <;> rfl
  | cons line lines ih =>
    cases hline : p.feed scope line with
    | error e =>
      simp only [feedAll, hline] at hq
      cases hq
    | ok r =>
      rw [feedAll_cons hline] at hq
      rw [seams_cons hline] at hnames
      rw [joined_cons hline]
      have ih := ih hq fun hlf => hnames (List.mem_cons_of_mem _ hlf)
      have hseam := scan_append_seam hline
        (fun hlf => hnames (by rw [hlf]; exact List.mem_cons_self))
        (r.joined scope lines ++ last).toList
      rw [scan_eq_shift_feed, ih] at hseam
      have htext : (line.push r.seam ++ r.joined scope lines ++ last).toList =
          line.toList ++ r.seam :: (r.joined scope lines ++ last).toList := by
        simp only [String.toList_append, String.toList_push, List.append_assoc,
          List.cons_append, List.nil_append]
      rw [feed, htext, hseam]
      cases q.feed scope last with
      | ok c => rfl
      | error e =>
        show Except.error _ = Except.error _
        rw [ExpansionError.shift_shift]
        congr 2
        simp only [String.length_append, String.length_push, String.length_toList]
        omega

end Lines

/-! ## The two ways agree -/

/-- Scanning `lines` and `last` in one go ends as scanning `last` after the lines does, `q` being
the progress they lead to. -/
def ScansAlike (scope : Scope) (p q : Progress) (lines : List String) (last : String) : Prop :=
  (∀ c, p.feed scope (p.joined scope lines ++ last) = .ok c ↔ q.feed scope last = .ok c) ∧
    ∀ n, p.feed scope (p.joined scope lines ++ last) = .error ⟨n⟩ ↔
      ∃ m, q.feed scope last = .error ⟨m⟩ ∧ n = m + (p.joined scope lines).length

theorem scansAlike_of_feed_eq {scope : Scope} {p q : Progress} {lines : List String}
    {last : String}
    (h : p.feed scope (p.joined scope lines ++ last) =
      (q.feed scope last).mapError (.shift (p.joined scope lines).length)) :
    ScansAlike scope p q lines last := by
  unfold ScansAlike
  rw [h]
  cases q.feed scope last with
  | ok d => simp [Except.mapError]
  | error e =>
    obtain ⟨m⟩ := e
    simp only [Except.mapError, ExpansionError.shift, reduceCtorEq, implies_true, true_and,
      Except.error.injEq, ExpansionError.mk.injEq]
    intro n
    constructor
    · rintro rfl
      exact ⟨m, rfl, rfl⟩
    · rintro ⟨_, rfl, rfl⟩
      rfl

/-- A scope in which a name goes on after a line feed. -/
def brokenName : Scope := .ofList [("x", "1"), ("x\ny", "2")]

/-- With such a name the two ways differ: in one go, the longer name is read across the seam. -/
theorem not_scansAlike_brokenName :
    ¬ ScansAlike brokenName {} ⟨.double, "1\n", []⟩ ["\"$x"] "y\"" := by
  intro h
  have hjoined : feed brokenName {} (joined brokenName {} ["\"$x"] ++ "y\"") =
      .ok ⟨.bare, "", ["2"]⟩ := by decide +kernel
  have hlast : feed brokenName ⟨.double, "1\n", []⟩ "y\"" = .ok ⟨.bare, "", ["1\ny"]⟩ := by
    decide +kernel
  have hsame := (h.1 _).mp hjoined
  rw [hlast] at hsame
  simp at hsame

/-- **Line by line is in one go.** Lines fed one after the other end as the joined lines do: with
the same progress, or with the same error, reported later by the characters in front of the last
line. Only where a line feed joins two lines do the names matter, and there a name with a line feed
can make a difference. -/
theorem feed_joined_lines :
    (∀ (scope : Scope) (p q : Progress) (lines : List String) (last : String),
      p.feedAll scope lines = .ok q →
      ('\n' ∈ p.seams scope lines →
        ∀ name, scope.contains name = true → '\n' ∉ name.toList) →
      ScansAlike scope p q lines last) ∧
    ∃ (scope : Scope) (p q : Progress) (lines : List String) (last : String),
      p.feedAll scope lines = .ok q ∧ '\n' ∈ p.seams scope lines ∧
        ¬ ScansAlike scope p q lines last := by
  constructor
  · intro scope p q lines last hq hnames
    exact scansAlike_of_feed_eq (feed_joined hq hnames last)
  · exact ⟨brokenName, {}, ⟨.double, "1\n", []⟩, ["\"$x"], "y\"", by decide +kernel,
      by decide +kernel, not_scansAlike_brokenName⟩

/-- Three lines with a line feed and a space for seams, the last of which fails. -/
theorem feed_joined_lines_three :
    feedAll (.ofList [("x", "1")]) {} ["a \"$x", "b\" c"] = .ok ⟨.bare, "", ["a", "1\nb", "c"]⟩ ∧
      joined (.ofList [("x", "1")]) {} ["a \"$x", "b\" c"] = "a \"$x\nb\" c " ∧
      feed (.ofList [("x", "1")]) {} "a \"$x\nb\" c d $y" = .error ⟨13⟩ := by
  have hq : feedAll (.ofList [("x", "1")]) {} ["a \"$x", "b\" c"] =
      .ok ⟨.bare, "", ["a", "1\nb", "c"]⟩ := by decide +kernel
  have hnames : ∀ name, (Scope.ofList [("x", "1")]).contains name = true →
      '\n' ∉ name.toList := by
    intro name hname
    have hx : name = "x" := by
      by_contra hne
      simp [Scope.ofList, Scope.setAll, Scope.get?_set_of_ne _ _ (Ne.symm hne)] at hname
    subst hx
    decide
  have h := feed_joined_lines.1 _ _ _ _ "d $y" hq fun _ => hnames
  have hjoined : joined (.ofList [("x", "1")]) {} ["a \"$x", "b\" c"] = "a \"$x\nb\" c " := by
    decide +kernel
  unfold ScansAlike at h
  rw [hjoined] at h
  exact ⟨hq, hjoined, (h.2 13).mpr ⟨2, by decide +kernel, by decide⟩⟩

end Progress

end LineShell
