import LineShell.Log
import LineShell.Proofs.Session.Eval
import Mathlib.Data.List.Infix

/-!
# The lines that a command takes

While a quote is open, `gather` asks for further lines. It asks for no more of them than are there,
unless they run out inside a quote, and then it asks once in vain (`asked_gather`). The lines that
it has not asked for make no difference (`gather_eq_of_asked`). The same holds of a step of a
session, which looks at further lines in no other way (`Session.asked_eval_cases`,
`Session.eval_eq_of_asked`).
-/

namespace LineShell

variable {scope : Scope}

namespace Progress

variable {p q : Progress} {line : String} {more : List String}

theorem gather_cons_of_error {e : ExpansionError} (h : ¬p.isComplete = true)
    (hfeed : p.feed scope line = .error e) : p.gather scope (line :: more) = ⟨.error e, 1⟩ := by
  rw [gather, if_neg h]
  simp only [hfeed]

theorem gather_cons_of_ok (h : ¬p.isComplete = true) (hfeed : p.feed scope line = .ok q) :
    p.gather scope (line :: more) =
      { q.gather scope more with asked := (q.gather scope more).asked + 1 } := by
  rw [gather, if_neg h]
  simp only [hfeed]

/-- The lines are enough, or they run out inside a quote. -/
theorem asked_gather (scope : Scope) (p : Progress) (more : List String) :
    (p.gather scope more).asked ≤ more.length ∧ (p.gather scope more).words ≠ .ok none ∨
      (p.gather scope more).asked = more.length + 1 ∧
        (p.gather scope more).words = .ok none := by
  fun_induction Progress.gather scope p more with
  | case1 p more hcomplete => exact .inl ⟨Nat.zero_le _, by simp⟩
  | case2 p hopen => exact .inr ⟨rfl, rfl⟩
  | case3 p hopen line more e hfeed => exact .inl ⟨Nat.le_add_left 1 _, by simp⟩
  | case4 p hopen line more q hfeed later ih =>
    rw [List.length_cons]
    simp only [Nat.add_le_add_iff_right, Nat.add_right_cancel_iff]
    exact ih

/-- **Only lines that are asked for are read.** -/
theorem gather_eq_of_asked {more' : List String}
    (hasked : (p.gather scope more).asked ≤ more.length)
    (hpre : more.take (p.gather scope more).asked <+: more') :
    p.gather scope more' = p.gather scope more := by
  revert more'
  fun_induction Progress.gather scope p more with
  | case1 p more hcomplete =>
    intro more' _
    exact gather_of_isComplete scope hcomplete more'
  | case2 p hopen => exact absurd hasked (Nat.not_succ_le_zero 0)
  | case3 p hopen line more e hfeed =>
    -- the first line is asked for, so `more'` starts with it too
    rintro _ ⟨rest, rfl⟩
    exact gather_cons_of_error hopen hfeed
  | case4 p hopen line more q hfeed later ih =>
    rw [List.take_succ_cons]
    rintro _ ⟨rest, rfl⟩
    rw [List.cons_append, gather_cons_of_ok hopen hfeed,
      ih (Nat.le_of_succ_le_succ hasked) (List.prefix_append _ rest)]

end Progress

/-! ## From the first line on -/

section Gather

variable {line : String} {more : List String}

theorem asked_gather (scope : Scope) (line : String) (more : List String) :
    (gather scope line more).asked ≤ more.length ∧ (gather scope line more).words ≠ .ok none ∨
      (gather scope line more).asked = more.length + 1 ∧
        (gather scope line more).words = .ok none := by
  unfold gather
  cases expand scope line with
  | error e => exact .inl ⟨Nat.zero_le _, by simp⟩
  | ok p => exact p.asked_gather scope more

theorem gather_eq_of_asked {more' : List String}
    (hasked : (gather scope line more).asked ≤ more.length)
    (hpre : more.take (gather scope line more).asked <+: more') :
    gather scope line more' = gather scope line more := by
  unfold gather at hasked hpre ⊢
  cases hexpand : expand scope line with
  | error e => rfl
  | ok p =>
    rw [hexpand] at hasked hpre
    exact Progress.gather_eq_of_asked hasked hpre

end Gather

/-! ## Steps -/

namespace Session

variable {σ : Type} [System σ] {s : Session σ} {line : String} {more : List String}

theorem asked_eval (s : Session σ) (line : String) (more : List String) :
    (s.eval line more).asked = (gather s.scope line more).asked := by
  rw [eval_eq_evalWith]
  rcases unreadable_or_stages s.scope line more with hu | ⟨words, stages, h, hwords⟩
  · cases hu with
    | expansionError e h => rw [evalWith_of_expansionError _ h]
    | abandoned h => rw [evalWith_of_abandoned _ h]
    | parseError words e h hwords => rw [evalWith_of_parseError _ h hwords]
  · rw [evalWith_of_stages _ h hwords]

theorem eval_congr {more' : List String}
    (h : gather s.scope line more' = gather s.scope line more) :
    s.eval line more' = s.eval line more := by
  rw [eval, eval, h]

theorem log_congr {more' : List String}
    (h : gather s.scope line more' = gather s.scope line more) :
    s.log line more' = s.log line more := by
  rw [log, log, h]

/-- **A step is enough with its lines, or the lines run out inside a quote**, and it is dropped. -/
theorem asked_eval_cases (s : Session σ) (line : String) (more : List String) :
    (s.eval line more).asked ≤ more.length ∨
      (s.eval line more).asked = more.length + 1 ∧ (s.eval line more).result = .ok .nothing := by
  rw [asked_eval]
  rcases asked_gather s.scope line more with ⟨hle, -⟩ | ⟨heq, hwords⟩
  · exact .inl hle
  · refine .inr ⟨heq, ?_⟩
    rw [eval_eq_evalWith, evalWith_of_abandoned _ hwords]

/-- **A step depends on no line that it has not asked for.** -/
theorem eval_eq_of_asked {more' : List String} (hasked : (s.eval line more).asked ≤ more.length)
    (hpre : more.take (s.eval line more).asked <+: more') :
    s.eval line more' = s.eval line more := by
  rw [asked_eval] at hasked hpre
  exact eval_congr (gather_eq_of_asked hasked hpre)

theorem log_eq_of_asked {more' : List String} (hasked : (s.eval line more).asked ≤ more.length)
    (hpre : more.take (s.eval line more).asked <+: more') : s.log line more' = s.log line more := by
  rw [asked_eval] at hasked hpre
  exact log_congr (gather_eq_of_asked hasked hpre)

end Session

end LineShell
