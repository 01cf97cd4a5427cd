import LineShell.Proofs.Expansion.Lines
import LineShell.Proofs.Session.Reading
import LineShell.Sandbox
import Mathlib.Data.Nat.Find

/-!
# The lines that a command needs

Scanned one after the other, the lines of a supply settle a command at the first line after which no
quote is open, or which fails. `eval` reads up to that line and no further, and if there is no such
line it reads them all, asks once more and drops the command (`eval_reads_needed_lines`).

The loop over the lines is compared with `feedAll`, which feeds a given number of lines whether or
not they are needed. One turn of the loop feeds a line and goes on only inside a quote
(`takeLines`), and by induction on the supply the loop stops at the least number of lines that
settles (`takeLines_of_needs`), or never (`takeLines_of_never_settles`).
-/

namespace LineShell

namespace Progress

variable {scope : Scope} {p q : Progress} {line : String} {lines more : List String} {k : Nat}

/-- After these lines no further one is needed: no quote is open, or one of them failed. -/
def settles (scope : Scope) (p : Progress) (lines : List String) : Bool :=
  match p.feedAll scope lines with
  | .error _ => true
  | .ok q => q.isComplete

/-- The lines with the numbers 0 to `k` settle the command, and no fewer do. -/
structure Needs (scope : Scope) (p : Progress) (lines : List String) (k : Nat) : Prop where
  lt : k < lines.length
  settles : p.settles scope (lines.take (k + 1)) = true
  least : ∀ j < k, p.settles scope (lines.take (j + 1)) = false

theorem settles_singleton (h : p.feed scope line = .ok q) :
    p.settles scope [line] = q.isComplete := by
  simp only [settles, feedAll, h]

theorem settles_cons_of_ok (h : p.feed scope line = .ok q) (lines : List String) :
    p.settles scope (line :: lines) = q.settles scope lines := by
  rw [settles, feedAll_cons h, settles]

theorem settles_cons_of_error {e : ExpansionError} (h : p.feed scope line = .error e)
    (lines : List String) : p.settles scope (line :: lines) = true := by
  simp only [settles, feedAll, h]

theorem feedAll_concat (scope : Scope) (p : Progress) (lines : List String) (last : String) :
    p.feedAll scope (lines ++ [last]) =
      match p.feedAll scope lines with
      | .error e => .error e
      | .ok q => q.feed scope last := by
  induction lines generalizing p with
  | nil =>
    simp only [List.nil_append, feedAll]
    cases p.feed scope last <;> rfl
  | cons line lines ih =>
    cases hline : p.feed scope line with
    | error e => simp only [List.cons_append, feedAll, hline]
    | ok q => rw [List.cons_append, feedAll_cons hline, feedAll_cons hline, ih]

theorem exists_needs (hk : k < lines.length) (h : p.settles scope (lines.take (k + 1)) = true) :
    ∃ j, Needs scope p lines j := by
  have hex : ∃ j, p.settles scope (lines.take (j + 1)) = true := ⟨k, h⟩
  refine ⟨Nat.find hex, lt_of_le_of_lt (Nat.find_min' hex h) hk, Nat.find_spec hex, ?_⟩
  intro j hj
  exact Bool.eq_false_iff.mpr (Nat.find_min hex hj)

namespace Needs

theorem eq_zero (h : Needs scope p (line :: more) k) (hline : p.settles scope [line] = true) :
    k = 0 := by
  by_contra hk
  have hleast := h.least 0 (Nat.pos_of_ne_zero hk)
  rw [List.take_succ_cons, List.take_zero, hline] at hleast
  cases hleast

theorem tail (h : Needs scope p (line :: more) k) (hline : p.feed scope line = .ok q)
    (hq : ¬q.isComplete = true) : ∃ m, k = m + 1 ∧ Needs scope q more m := by
  cases k with
  | zero =>
    have hsettles := h.settles
    rw [List.take_succ_cons, List.take_zero, settles_singleton hline] at hsettles
    exact absurd hsettles hq
  | succ m =>
    refine ⟨m, rfl, Nat.lt_of_succ_lt_succ h.lt, ?_, ?_⟩
    · rw [← settles_cons_of_ok hline]
      exact h.settles
    · intro j hj
      rw [← settles_cons_of_ok hline]
      exact h.least (j + 1) (Nat.succ_lt_succ hj)

/-- The lines before the last one that is needed do not fail. So an error is that of the last
one. -/
theorem error_of_last {e : ExpansionError} (h : Needs scope p lines k)
    (he : p.feedAll scope (lines.take (k + 1)) = .error e) :
    ∃ q last, p.feedAll scope (lines.take k) = .ok q ∧ lines[k]? = some last ∧
      q.feed scope last = .error e := by
  have hlast : lines.take (k + 1) = lines.take k ++ [lines.get ⟨k, h.lt⟩] := by
    rw [List.take_add_one, List.getElem?_eq_getElem h.lt]
    rfl
  have hbefore : ∃ q, p.feedAll scope (lines.take k) = .ok q := by
    cases k with
    | zero => exact ⟨p, rfl⟩
    | succ j =>
      have hleast := h.least j (Nat.lt_succ_self j)
      unfold Progress.settles at hleast
      split at hleast
      · cases hleast
      · rename_i q hq
        exact ⟨q, hq⟩
  obtain ⟨q, hq⟩ := hbefore
  rw [hlast, feedAll_concat, hq] at he
  exact ⟨q, _, hq, List.getElem?_eq_getElem h.lt, he⟩

end Needs

/-! ## The loop -/

/-- One turn of the loop and the rest of it: feeds `line`, and then takes further lines while a
quote is open. -/
def takeLines (scope : Scope) (p : Progress) (line : String) (more : List String) : Gathered :=
  match p.feed scope line with
  | .error e => ⟨.error e, 0⟩
  | .ok q => q.gather scope more

theorem gather_cons_of_open (h : ¬p.isComplete = true) (line : String) (more : List String) :
    p.gather scope (line :: more) =
      { p.takeLines scope line more with asked := (p.takeLines scope line more).asked + 1 } := by
  unfold takeLines
  cases hline : p.feed scope line with
  | error e => rw [gather_cons_of_error h hline]
  | ok q => rw [gather_cons_of_ok h hline]

/-- **The loop stops where the supply settles**, and what it has then is what feeding these lines
gives. -/
theorem takeLines_of_needs {scope : Scope} : ∀ {more : List String} {p : Progress}
    {line : String} {k : Nat}, Needs scope p (line :: more) k →
    p.takeLines scope line more =
      ⟨(p.feedAll scope (line :: more.take k)).map fun q => some q.words, k⟩ := by
  intro more p line k h
  unfold takeLines
  cases hline : p.feed scope line with
  | error e =>
    obtain rfl := h.eq_zero (settles_cons_of_error hline [])
    simp only [feedAll, hline]
    rfl
  | ok q =>
    by_cases hq : q.isComplete = true
    · obtain rfl := h.eq_zero (by rw [settles_singleton hline, hq])
      simp only [feedAll, hline]
      exact gather_of_isComplete scope hq more
    · -- a further line is needed, so there is one
      obtain ⟨m, rfl, hm⟩ := h.tail hline hq
      cases more with
      | nil => exact absurd hm.lt (Nat.not_lt_zero m)
      | cons next more =>
        simp only [gather_cons_of_open hq, takeLines_of_needs hm, feedAll_cons hline,
          List.take_succ_cons]

theorem exists_open_of_settles_eq_false (h : p.settles scope [line] = false) :
    ∃ q, p.feed scope line = .ok q ∧ ¬q.isComplete = true := by
  cases hline : p.feed scope line with
  | error e =>
    rw [settles_cons_of_error hline] at h
    cases h
  | ok q =>
    rw [settles_singleton hline] at h
    exact ⟨q, rfl, by rw [h]; simp⟩

/-- **Without such a line the loop reads them all**, asks once more and gives up. -/
theorem takeLines_of_never_settles {scope : Scope} : ∀ {more : List String} {p : Progress}
    {line : String}, (∀ k ≤ more.length, p.settles scope (line :: more.take k) = false) →
    p.takeLines scope line more = ⟨.ok none, more.length + 1⟩ := by
  intro more p line h
  obtain ⟨q, hline, hq⟩ := exists_open_of_settles_eq_false (h 0 (Nat.zero_le _))
  simp only [takeLines, hline]
  cases more with
  | nil => rw [gather, if_neg hq]; rfl
  | cons next more =>
    have hnext : ∀ k ≤ more.length, q.settles scope (next :: more.take k) = false := by
      intro k hk
      rw [← settles_cons_of_ok hline]
      exact h (k + 1) (Nat.succ_le_succ hk)
    rw [gather_cons_of_open hq, takeLines_of_never_settles hnext, List.length_cons]

end Progress

/-! ## Steps -/

namespace Session

variable {σ : Type} [System σ]

/-- Interprets the words of a command and runs its stages. -/
def runWords (s : Session σ) (words : List String) : Step σ :=
  match Pipeline.ofWords words with
  | .error e => { result := .error (.parse e), session := s }
  | .ok stages => s.runPipeline stages

theorem eval_eq_runWords {s : Session σ} {line : String} {more : List String}
    {words : List String} (h : (gather s.scope line more).words = .ok (some words)) :
    s.eval line more =
      { s.runWords words with asked := (gather s.scope line more).asked } := by
  rw [eval_eq_evalWith, runWords]
  cases hwords : Pipeline.ofWords words with
  | error e => rw [evalWith_of_parseError _ h hwords]
  | ok stages => rw [evalWith_of_stages _ h hwords]

/-- What evaluating a command does that needs the lines up to number `k`. -/
structure ReadsUpTo (s : Session σ) (line : String) (more : List String) (k : Nat) : Prop where
  asked : (s.eval line more).asked = k
  /-- If it fails to expand, the error is that of line `k` alone, and no stage is run. -/
  error : ∀ e, Progress.feedAll s.scope {} (line :: more.take k) = .error e →
    (∃ q last, Progress.feedAll s.scope {} ((line :: more).take k) = .ok q ∧
      (line :: more)[k]? = some last ∧ q.feed s.scope last = .error e) ∧
    (∀ run, s.evalWith run line more = s.eval line more) ∧
    s.eval line more = { result := .error (.expansion e), asked := k, session := s }
  /-- Otherwise its words are interpreted and run. -/
  words : ∀ p, Progress.feedAll s.scope {} (line :: more.take k) = .ok p →
    s.eval line more = { s.runWords p.words with asked := k }
  /-- The lines after number `k` make no difference. -/
  later : ∀ rest, s.eval line (more.take k ++ rest) = s.eval line more

theorem readsUpTo_of_needs {s : Session σ} {line : String} {more : List String} {k : Nat}
    (h : Progress.Needs s.scope {} (line :: more) k) : s.ReadsUpTo line more k := by
  have hgather : gather s.scope line more = _ := Progress.takeLines_of_needs h
  have hasked : (s.eval line more).asked = k := by rw [asked_eval, hgather]
  refine ⟨hasked, ?_, ?_, ?_⟩
  · intro e he
    have hwords : (gather s.scope line more).words = .error e := by
      rw [hgather, he]
      rfl
    refine ⟨h.error_of_last he, ?_, ?_⟩
    · intro run
      rw [eval_eq_evalWith, evalWith_of_expansionError _ hwords,
        evalWith_of_expansionError _ hwords]
    · rw [eval_eq_evalWith, evalWith_of_expansionError _ hwords, hgather]
  · intro p hp
    have hwords : (gather s.scope line more).words = .ok (some p.words) := by
      rw [hgather, hp]
      rfl
    rw [eval_eq_runWords hwords, hgather]
  · intro rest
    apply eval_eq_of_asked
    · rw [hasked]
      exact Nat.le_of_lt_succ h.lt
    · rw [hasked]
      exact List.prefix_append _ rest

/-- **A command reads the lines that it needs.** If the lines 0 to `k` settle it and no fewer do, it
asks for `k` further lines, fails with the error of line `k` or runs the words that were read, and
does not depend on later lines. If no line settles it, it asks for all of them and once more, does
nothing, runs no stage and leaves the session as it is. -/
theorem eval_reads_needed_lines (s : Session σ) (line : String) (more : List String) :
    (∀ k, Progress.Needs s.scope {} (line :: more) k → s.ReadsUpTo line more k) ∧
    ((¬∃ k, Progress.Needs s.scope {} (line :: more) k) →
      (∀ run, s.evalWith run line more = s.eval line more) ∧
        s.eval line more =
          { result := .ok .nothing, asked := more.length + 1, session := s }) := by
  refine ⟨fun k h => readsUpTo_of_needs h, fun hnone => ?_⟩
  have hnever : ∀ k ≤ more.length,
      Progress.settles s.scope {} (line :: more.take k) = false := by
    intro k hk
    refine Bool.eq_false_iff.mpr fun hsettles => ?_
    exact hnone (Progress.exists_needs (Nat.lt_succ_of_le hk) hsettles)
  have hgather : gather s.scope line more = _ := Progress.takeLines_of_never_settles hnever
  have hwords : (gather s.scope line more).words = .ok none := by rw [hgather]
  constructor
  · intro run
    rw [eval_eq_evalWith, evalWith_of_abandoned _ hwords, evalWith_of_abandoned _ hwords]
  · rw [eval_eq_evalWith, evalWith_of_abandoned _ hwords, hgather]

/-- A session in which `x` is bound. -/
def withX : Session Sandbox := { scope := .ofList [("x", "1")], world := ⟨⟨[]⟩, [], ""⟩ }

/-- Of four lines three are needed, of three lines two because the second fails, and two lines are
not enough. -/
theorem eval_reads_needed_lines_three :
    (withX.eval "echo \"$x" ["b", "c\" d", "'"]).asked = 2 ∧
      (withX.eval "echo \"$x" ["b", "c\" d", "'"]).result = .ok (.output "1\nb\nc d") ∧
      withX.eval "echo \"$x" ["b", "c\" d"] = withX.eval "echo \"$x" ["b", "c\" d", "'"] ∧
      withX.eval "echo \"$x" ["b $y", "c"] =
        { result := .error (.expansion ⟨2⟩), asked := 1, session := withX } ∧
      withX.eval "echo \"$x" ["b"] = { result := .ok .nothing, asked := 2, session := withX } := by
  have hthree := (eval_reads_needed_lines withX "echo \"$x" ["b", "c\" d", "'"]).1 2
    ⟨by decide, by decide +kernel, by decide +kernel⟩
  have htwo := (eval_reads_needed_lines withX "echo \"$x" ["b $y", "c"]).1 1
    ⟨by decide, by decide +kernel, by decide +kernel⟩
  have hopen : ∀ k < 2,
      Progress.settles withX.scope {} (["echo \"$x", "b"].take (k + 1)) = false := by
    decide +kernel
  have hnone := (eval_reads_needed_lines withX "echo \"$x" ["b"]).2 fun ⟨k, hk⟩ => by
    have hsettles := hk.settles
    rw [hopen k hk.lt] at hsettles
    cases hsettles
  refine ⟨hthree.asked, ?_, hthree.later [], ?_, hnone.2⟩
  · rw [hthree.words ⟨.bare, "", ["echo", "1\nb\nc", "d"]⟩ (by decide +kernel)]
    rfl
  · exact (htwo.error ⟨2⟩ (by decide +kernel)).2.2

end Session

end LineShell
