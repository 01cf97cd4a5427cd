import LineShell.Proofs.Expansion.References
import LineShell.Proofs.Session.Reading
import LineShell.Proofs.Session.Scope

/-!
# Variables that are not referred to

A step looks at the scope of its session in one place, the expansion of its lines: stages are handed
a scope, but do the same in any (`Command.run_of_scope`). So two sessions in which the lines expand
alike take the same step (`eval_of_gather_eq`), and lines expand alike if the scopes agree on the
names that they can refer to (`gather_congr`).

A name that stands after no dollar sign of the lines is not among these, and so it does not matter
whether and to what it is bound (`unmentioned_name_irrelevant`). It is not enough to look at the
names that the lines do refer to: a dollar sign takes the longest name that is bound, and a new
binding can be longer.
-/

namespace LineShell

/-! ## Reading under two scopes -/

theorem Progress.gather_congr {s t : Scope} {p : Progress} {more : List String}
    (h : ∀ line ∈ more, Scope.AgreeOn (Referable line.toList) s t) :
    p.gather s more = p.gather t more := by
  fun_induction Progress.gather s p more with
  | case1 p more hcomplete => rw [gather_of_isComplete t hcomplete]
  | case2 p hopen => rw [gather, if_neg hopen]
  | case3 p hopen line more e hfeed =>
    rw [feed_congr p (h line List.mem_cons_self)] at hfeed
    rw [gather_cons_of_error hopen hfeed]
  | case4 p hopen line more q hfeed later ih =>
    rw [feed_congr p (h line List.mem_cons_self)] at hfeed
    have hlater : later = q.gather t more := ih fun other hother =>
      h other (List.mem_cons_of_mem line hother)
    rw [gather_cons_of_ok hopen hfeed, hlater]

/-- **Lines are read alike** if the scopes agree on all names that they can refer to. -/
theorem gather_congr {s t : Scope} {line : String} {more : List String}
    (h : ∀ other ∈ line :: more, Scope.AgreeOn (Referable other.toList) s t) :
    gather s line more = gather t line more := by
  have hexpand : expand s line = expand t line := Progress.feed_congr {} (h line List.mem_cons_self)
  unfold gather
  rw [hexpand]
  cases expand t line with
  | error e => rfl
  | ok p =>
    exact Progress.gather_congr fun other hother => h other (List.mem_cons_of_mem line hother)

/-! ## Steps under two scopes -/

variable {σ : Type}

/-- The step with another scope in the session that it leads to. -/
def Step.withScope (step : Step σ) (scope : Scope) : Step σ :=
  { step with session := { step.session with scope } }

namespace Session

variable [System σ]

theorem runPipeline_of_scope (s : Session σ) (t : Scope) (stages : Pipeline) :
    runPipeline { s with scope := t } stages =
      (s.runPipeline stages).withScope (t.update stages.binding?) := by
  match stages with
  | [] => rfl
  | [c] =>
    by_cases hexit : c.kind = .exit
    · rw [runPipeline_exit _ hexit, runPipeline_exit s hexit, Pipeline.binding?_of_exit hexit]
      rfl
    · rw [runPipeline_single _ hexit, runPipeline_single s hexit]
      simp only [c.run_of_scope none s.scope t s.world]
      rfl
  | c :: d :: rest => rfl

theorem eval_of_gather_eq {s : Session σ} {t : Scope} {e : Entry}
    (h : gather t e.line e.more = gather s.scope e.line e.more) :
    eval { s with scope := t } e.line e.more =
      (s.eval e.line e.more).withScope (t.update (e.binding? s.scope)) := by
  have hword {words : Except ExpansionError (Option (List String))}
      (hs : (gather s.scope e.line e.more).words = words) :
      (gather t e.line e.more).words = words := by rw [h, hs]
  rw [eval_eq_evalWith, eval_eq_evalWith]
  rcases unreadable_or_stages s.scope e.line e.more with hu | ⟨words, stages, hs, hwords⟩
  · rw [Entry.binding?_of_unreadable hu]
    cases hu with
    | expansionError err hs =>
      rw [evalWith_of_expansionError _ hs, evalWith_of_expansionError _ (hword hs), h]
      rfl
    | abandoned hs =>
      rw [evalWith_of_abandoned _ hs, evalWith_of_abandoned _ (hword hs), h]
      rfl
    | parseError words err hs hwords =>
      rw [evalWith_of_parseError _ hs hwords, evalWith_of_parseError _ (hword hs) hwords, h]
      rfl
  · rw [evalWith_of_stages _ hs hwords, evalWith_of_stages _ (hword hs) hwords,
      Entry.binding?_of_stages hs hwords, runPipeline_of_scope, h]
    rfl

/-! ## A name that is not mentioned -/

/-- The two steps differ in nothing but what they leave `name` bound to. -/
structure AlikeExcept (name : String) (a b : Step σ) : Prop where
  /-- The same outcome or the same error. -/
  result : a.result = b.result
  asked : a.asked = b.asked
  errors : a.errors = b.errors
  world : a.session.world = b.session.world
  scope : ∀ other, other ≠ name → a.session.scope.get? other = b.session.scope.get? other

theorem get?_update_congr {s t : Scope} {name : String} (binding : Option (String × String))
    (h : s.get? name = t.get? name) :
    (s.update binding).get? name = (t.update binding).get? name := by
  cases binding with
  | none => exact h
  | some pair => rw [Scope.update, Scope.update, Scope.get?_set, Scope.get?_set, h]

/-- **A variable that is not referred to does not matter.** If in none of the lines the name stands
right after a dollar sign, then binding it, or binding it to something else, makes no difference to
the step: it has the same result, asks for as many lines, and leaves the same system and, apart from
that name, the same scope. If the command assigns the name, both sessions end with the value that it
assigns; otherwise each of them keeps what it had. -/
theorem unmentioned_name_irrelevant (s : Session σ) (e : Entry) (name value : String)
    (h : ∀ line ∈ e.line :: e.more, ¬ Mentions line.toList name) :
    AlikeExcept name (eval { s with scope := s.scope.set name value } e.line e.more)
      (s.eval e.line e.more) ∧
    (∀ assigned, e.Assigns s.scope name assigned →
      (eval { s with scope := s.scope.set name value } e.line e.more).session.scope.get? name =
          some assigned ∧
        (s.eval e.line e.more).session.scope.get? name = some assigned) ∧
    ((∀ assigned, ¬ e.Assigns s.scope name assigned) →
      (eval { s with scope := s.scope.set name value } e.line e.more).session.scope.get? name =
          some value ∧
        (s.eval e.line e.more).session.scope.get? name = s.scope.get? name) := by
  have hgather : gather (s.scope.set name value) e.line e.more = gather s.scope e.line e.more :=
    gather_congr fun line hline =>
      s.scope.agreeOn_set value fun hname => h line hline hname.mentions
  have hstep := eval_of_gather_eq hgather
  rw [hstep]
  refine ⟨⟨rfl, rfl, rfl, rfl, fun other hother => ?_⟩, fun assigned hassign => ?_, fun hnot => ?_⟩
  · rw [eval_scope]
    exact get?_update_congr _ (s.scope.get?_set_of_ne value (Ne.symm hother))
  · have hbinding := Entry.binding?_eq_some_iff.mpr hassign
    rw [eval_scope, hbinding]
    exact ⟨Scope.get?_set_self _ name assigned, Scope.get?_set_self _ name assigned⟩
  · -- what is bound, if anything, is another name
    have hkeep (scope : Scope) :
        (scope.update (e.binding? s.scope)).get? name = scope.get? name := by
      cases hb : e.binding? s.scope with
      | none => rfl
      | some pair =>
        obtain ⟨bound, assigned⟩ := pair
        have hassign := Entry.binding?_eq_some_iff.mp hb
        apply scope.get?_set_of_ne assigned
        rintro rfl
        exact hnot assigned hassign
    rw [eval_scope, hkeep]
    refine ⟨?_, rfl⟩
    show ((s.scope.set name value).update (e.binding? s.scope)).get? name = some value
    rw [hkeep, Scope.get?_set_self]

/-- A command of two lines that refer to `x`, in a session that binds the longer name `xy` and in
one that does not. -/
theorem unmentioned_name_irrelevant_two :
    AlikeExcept "xy"
      (eval ({ scope := (Scope.ofList [("x", "1")]).set "xy" "2", world := ⟨⟨[]⟩, [], ""⟩ } :
        Session Sandbox) "x=\"$x" ["y$x\""])
      (eval ({ scope := .ofList [("x", "1")], world := ⟨⟨[]⟩, [], ""⟩ } : Session Sandbox)
        "x=\"$x" ["y$x\""]) ∧
    (eval ({ scope := (Scope.ofList [("x", "1")]).set "xy" "2", world := ⟨⟨[]⟩, [], ""⟩ } :
      Session Sandbox) "x=\"$x" ["y$x\""]).session.scope.get? "xy" = some "2" ∧
    (eval ({ scope := .ofList [("x", "1")], world := ⟨⟨[]⟩, [], ""⟩ } : Session Sandbox)
      "x=\"$x" ["y$x\""]).session.scope = .ofList [("x", "1\ny1")] := by
  have hbinding : Entry.binding? (.ofList [("x", "1")]) ⟨"x=\"$x", ["y$x\""]⟩ =
      some ("x", "1\ny1") := by decide +kernel
  obtain ⟨halike, -, hkeep⟩ := unmentioned_name_irrelevant
    ({ scope := .ofList [("x", "1")], world := ⟨⟨[]⟩, [], ""⟩ } : Session Sandbox)
    ⟨"x=\"$x", ["y$x\""]⟩ "xy" "2" (by decide)
  refine ⟨halike, (hkeep fun assigned hassign => ?_).1, ?_⟩
  · rw [← Entry.binding?_eq_some_iff, hbinding] at hassign
    simp at hassign
  · have hscope := eval_scope
      ({ scope := .ofList [("x", "1")], world := ⟨⟨[]⟩, [], ""⟩ } : Session Sandbox)
      ⟨"x=\"$x", ["y$x\""]⟩
    rw [hbinding] at hscope
    rw [hscope]
    decide +kernel

end Session

end LineShell
