import LineShell.Proofs.Session.Eval
import LineShell.Sandbox
import Mathlib.Data.List.Basic

/-!
# The scope of a session

The scope of a session changes in one way only: a command that is a single assignment binds its name
to its value. Every stage is handed a scope that it could change, but a pipeline of several stages
hands out scopes of its own, and no kind of command except the assignment makes use of it.

1. A stage updates its scope by its binding (`Command.run_scope`), a step that of the session
   (`eval_scope`).
2. Along a session, the scope is what replaying the bindings gives (`after_scope`). The system plays
   no part in it.
3. `session_scope_law` adds what a step leaves behind that runs no stage: nothing at all.
-/

namespace LineShell

/-- The lines of a logical command: the first, and those that are there to continue it. -/
structure Entry where
  line : String
  more : List String := []
  deriving DecidableEq, Repr

/-- The scope after a binding, if there is one to be made. -/
def Scope.update (scope : Scope) : Option (String × String) → Scope
  | some (name, value) => scope.set name value
  | none => scope

/-- The name and the value that a command binds. -/
def Command.binding? : Command → Option (String × String)
  | ⟨.assign, [name, value]⟩ => some (name, value)
  | _ => none

/-- The name and the value that a pipeline binds in the scope of the session. -/
def Pipeline.binding? : Pipeline → Option (String × String)
  | [c] => c.binding?
  | _ => none

/-- The name and the value that a logical command binds. -/
def Entry.binding? (scope : Scope) (e : Entry) : Option (String × String) :=
  match (gather scope e.line e.more).words with
  | .ok (some words) =>
    match Pipeline.ofWords words with
    | .ok stages => Pipeline.binding? stages
    | .error _ => none
  | _ => none

/-- The scope after logical commands, as far as their lines tell. -/
def Scope.replay (scope : Scope) (entries : List Entry) : Scope :=
  entries.foldl (fun scope e => scope.update (e.binding? scope)) scope

/-- The lines expand to words that are a single assignment of `value` to `name`. -/
def Entry.Assigns (scope : Scope) (e : Entry) (name value : String) : Prop :=
  ∃ words, (gather scope e.line e.more).words = .ok (some words) ∧
    Pipeline.ofWords words = .ok [⟨.assign, [name, value]⟩]

/-! ## Bindings -/

theorem Command.binding?_eq_some_iff {c : Command} {name value : String} :
    c.binding? = some (name, value) ↔ c = ⟨.assign, [name, value]⟩ := by
  constructor
  · intro h
    unfold binding? at h
    split at h
    · cases h
      rfl
    · cases h
  · rintro rfl
    rfl

theorem Pipeline.binding?_eq_some_iff {stages : Pipeline} {name value : String} :
    stages.binding? = some (name, value) ↔ stages = [⟨.assign, [name, value]⟩] := by
  constructor
  · intro h
    unfold binding? at h
    split at h
    · rw [Command.binding?_eq_some_iff.mp h]
    · cases h
  · rintro rfl
    rfl

theorem Pipeline.binding?_of_exit {c : Command} (h : c.kind = .exit) :
    Pipeline.binding? [c] = none := by
  obtain ⟨kind, args⟩ := c
  cases h
  rfl

theorem Entry.binding?_of_stages {scope : Scope} {e : Entry} {words : List String}
    {stages : Pipeline} (h : (gather scope e.line e.more).words = .ok (some words))
    (hwords : Pipeline.ofWords words = .ok stages) : e.binding? scope = stages.binding? := by
  simp only [binding?, h, hwords]

theorem Entry.binding?_of_unreadable {scope : Scope} {e : Entry}
    (h : Session.Unreadable scope e.line e.more) : e.binding? scope = none := by
  unfold binding?
  cases h with
  | expansionError err h => rw [h]
  | abandoned h => rw [h]
  | parseError words err h hwords => simp only [h, hwords]

theorem Entry.binding?_eq_some_iff {scope : Scope} {e : Entry} {name value : String} :
    e.binding? scope = some (name, value) ↔ e.Assigns scope name value := by
  constructor
  · intro hb
    rcases Session.unreadable_or_stages scope e.line e.more with hu | ⟨words, stages, h, hwords⟩
    · rw [binding?_of_unreadable hu] at hb
      cases hb
    · rw [binding?_of_stages h hwords, Pipeline.binding?_eq_some_iff] at hb
      exact ⟨words, h, by rw [hwords, hb]⟩
  · rintro ⟨words, h, hwords⟩
    rw [binding?_of_stages h hwords]
    rfl

/-! ## One step -/

variable {σ : Type} [System σ]

/-- **A stage binds or leaves its scope alone.** Of all kinds, only an assignment of one value to
one name binds. -/
theorem Command.run_scope (c : Command) (input : Option String) (scope : Scope) (world : σ) :
    (c.run input scope world).scope = scope.update c.binding? := by
  obtain ⟨kind, args⟩ := c
  cases kind with
  | assign =>
    simp only [run]
    split
    · rfl
    · rename_i hargs
      have hnone : binding? ⟨.assign, args⟩ = none := by
        unfold binding?
        split
        · rename_i name value heq
          cases heq
          exact absurd rfl (hargs name value)
        · rfl
      rw [hnone]
      rfl
  | external name =>
    show (runProgram name args input scope world).scope = scope
    simp only [runProgram]
    split
    · rfl
    · split <;> rfl
  | _ => rfl

/-- **A stage does the same in every scope**, apart from what it leaves bound there. -/
theorem Command.run_of_scope (c : Command) (input : Option String) (scope scope' : Scope)
    (world : σ) :
    c.run input scope' world =
      { c.run input scope world with scope := scope'.update c.binding? } := by
  rw [← c.run_scope input scope' world]
  obtain ⟨kind, args⟩ := c
  cases kind with
  | assign =>
    simp only [run]
    split <;> rfl
  | external name =>
    simp only [run, runProgram]
    split
    · rfl
    · split <;> rfl
  | _ => rfl

namespace Session

theorem runPipeline_scope (s : Session σ) (stages : Pipeline) :
    (s.runPipeline stages).session.scope = s.scope.update stages.binding? := by
  match stages with
  | [] => rw [runPipeline_nil]; rfl
  | [c] =>
    by_cases hexit : c.kind = .exit
    · rw [runPipeline_exit s hexit, Pipeline.binding?_of_exit hexit]
      rfl
    · rw [runPipeline_single s hexit]
      exact c.run_scope none s.scope s.world
  | c :: d :: rest => rw [runPipeline_many]; rfl

/-- A command that neither binds nor ends the session does alone what it does as the only one of
several stages. -/
theorem runPipeline_eq_runStages (s : Session σ) {c : Command} (hexit : c.kind ≠ .exit)
    (hbinding : c.binding? = none) :
    s.runPipeline [c] =
      { result := ((runStages none s.world [c]).1.map .output).mapError .command
        session := { s with world := (runStages none s.world [c]).2.1 }
        errors := (runStages none s.world [c]).2.2 } := by
  have hrun := c.run_of_scope none .empty s.scope s.world
  rw [hbinding] at hrun
  rw [runPipeline_single s hexit, runStages_singleton, hrun]
  rfl

theorem eval_scope (s : Session σ) (e : Entry) :
    (s.eval e.line e.more).session.scope = s.scope.update (e.binding? s.scope) := by
  rw [eval_eq_evalWith]
  rcases unreadable_or_stages s.scope e.line e.more with hu | ⟨words, stages, h, hwords⟩
  · rw [Entry.binding?_of_unreadable hu]
    cases hu with
    | expansionError err h => rw [evalWith_of_expansionError _ h]; rfl
    | abandoned h => rw [evalWith_of_abandoned _ h]; rfl
    | parseError words err h hwords => rw [evalWith_of_parseError _ h hwords]; rfl
  · rw [evalWith_of_stages _ h hwords, Entry.binding?_of_stages h hwords]
    exact runPipeline_scope s stages

/-- Lines that hold nothing to run leave the session as it is, however stages are run. -/
theorem evalWith_of_unreadable {s : Session σ} {e : Entry}
    (h : Unreadable s.scope e.line e.more) :
    (∀ run, s.evalWith run e.line e.more = s.eval e.line e.more) ∧
      (s.eval e.line e.more).session = s ∧ (s.eval e.line e.more).errors = [] := by
  rw [eval_eq_evalWith]
  cases h with
  | expansionError err h =>
    rw [evalWith_of_expansionError _ h]
    exact ⟨fun run => evalWith_of_expansionError run h, rfl, rfl⟩
  | abandoned h =>
    rw [evalWith_of_abandoned _ h]
    exact ⟨fun run => evalWith_of_abandoned run h, rfl, rfl⟩
  | parseError words err h hwords =>
    rw [evalWith_of_parseError _ h hwords]
    exact ⟨fun run => evalWith_of_parseError run h hwords, rfl, rfl⟩

theorem runPipeline_result (s : Session σ) (stages : Pipeline) :
    (∃ outcome, (s.runPipeline stages).result = .ok outcome) ∨
      ∃ err, (s.runPipeline stages).result = .error (.command err) := by
  have hmap (x : Except CommandError String) :
      (∃ outcome, (x.map Outcome.output).mapError ShellError.command = .ok outcome) ∨
        ∃ err, (x.map Outcome.output).mapError ShellError.command = .error (.command err) := by
    cases x with
    | ok text => exact .inl ⟨.output text, rfl⟩
    | error err => exact .inr ⟨err, rfl⟩
  match stages with
  | [] => rw [runPipeline_nil]; exact .inl ⟨.nothing, rfl⟩
  | [c] =>
    by_cases hexit : c.kind = .exit
    · rw [runPipeline_exit s hexit]
      exact .inl ⟨.exit, rfl⟩
    · rw [runPipeline_single s hexit]
      exact hmap _
  | c :: d :: rest => rw [runPipeline_many]; exact hmap _

/-- The step failed before there were stages, or the lines ended inside a quote. -/
def EndsUnread (s : Session σ) (e : Entry) : Prop :=
  (∃ err, (s.eval e.line e.more).result = .error (.expansion err)) ∨
    (∃ err, (s.eval e.line e.more).result = .error (.parse err)) ∨
    (gather s.scope e.line e.more).words = .ok none

theorem unreadable_of_endsUnread {s : Session σ} {e : Entry} (h : s.EndsUnread e) :
    Unreadable s.scope e.line e.more := by
  rcases unreadable_or_stages s.scope e.line e.more with hu | ⟨words, stages, hgather, hwords⟩
  · exact hu
  · unfold EndsUnread at h
    rw [eval_eq_evalWith, evalWith_of_stages _ hgather hwords, hgather] at h
    simp only at h
    rcases runPipeline_result s stages with ⟨outcome, hr⟩ | ⟨err, hr⟩ <;>
      rw [hr] at h <;> simp at h

theorem eval_of_assigns {s : Session σ} {e : Entry} {name value : String}
    (h : e.Assigns s.scope name value) :
    (s.eval e.line e.more).session = { s with scope := s.scope.set name value } ∧
      (s.eval e.line e.more).result = .ok (.output "") := by
  obtain ⟨words, hgather, hwords⟩ := h
  rw [eval_eq_evalWith, evalWith_of_stages _ hgather hwords]
  exact ⟨rfl, rfl⟩

/-! ## Whole sessions -/

/-- The session after logical commands that are evaluated one after the other. -/
def after (s : Session σ) (entries : List Entry) : Session σ :=
  entries.foldl (fun s e => (s.eval e.line e.more).session) s

theorem after_concat (s : Session σ) (entries : List Entry) (e : Entry) :
    s.after (entries ++ [e]) = ((s.after entries).eval e.line e.more).session := by
  rw [after, List.foldl_append]
  rfl

/-- **Whole sessions.** The scope is what replaying the bindings of the lines gives, whatever the
system did. -/
theorem after_scope (s : Session σ) (entries : List Entry) :
    (s.after entries).scope = s.scope.replay entries := by
  induction entries generalizing s with
  | nil => rfl
  | cons e entries ih =>
    have hstep := ih (s.eval e.line e.more).session
    rw [eval_scope] at hstep
    exact hstep

/-- What a step may do to the scope and, if it runs no stage, to the session. -/
structure StepLaw (s : Session σ) (e : Entry) : Prop where
  /-- A single assignment binds its name and puts out nothing. -/
  assignment : ∀ name value, e.Assigns s.scope name value →
    (s.eval e.line e.more).session.scope = s.scope.set name value ∧
      (s.eval e.line e.more).result = .ok (.output "")
  /-- Nothing else touches the scope. -/
  otherwise : (∀ name value, ¬ e.Assigns s.scope name value) →
    (s.eval e.line e.more).session.scope = s.scope
  /-- A step that fails before there are stages, or is abandoned, would be the same if stages were
  run in any other way, and leaves the whole session as it is. -/
  unread : s.EndsUnread e →
    (∀ run, s.evalWith run e.line e.more = s.eval e.line e.more) ∧
      (s.eval e.line e.more).session = s ∧ (s.eval e.line e.more).errors = []

theorem stepLaw (s : Session σ) (e : Entry) : s.StepLaw e where
  assignment name value h := by
    obtain ⟨hsession, hresult⟩ := eval_of_assigns h
    exact ⟨by rw [hsession], hresult⟩
  otherwise h := by
    have hnone : e.binding? s.scope = none := by
      cases hb : e.binding? s.scope with
      | none => rfl
      | some pair => exact absurd (Entry.binding?_eq_some_iff.mp hb) (h pair.1 pair.2)
    rw [eval_scope, hnone]
    rfl
  unread h := evalWith_of_unreadable (unreadable_of_endsUnread h)

/-- **The scope over whole sessions.** After any commands, each step obeys the law of steps, and the
scope is that which the bindings of the lines, replayed in order, give. -/
theorem session_scope_law (s : Session σ) (entries : List Entry) (e : Entry) :
    (s.after entries).StepLaw e ∧
      s.after (entries ++ [e]) = ((s.after entries).eval e.line e.more).session ∧
      (s.after (entries ++ [e])).scope = s.scope.replay (entries ++ [e]) :=
  ⟨stepLaw _ e, after_concat s entries e, after_scope s _⟩

/-- Two assignments, the second of which reads the first and takes two lines, and a line with an
unbound name behind them. -/
theorem session_scope_law_two :
    let s : Session Sandbox := { world := ⟨⟨[]⟩, [], ""⟩ }
    let first : Entry := ⟨"x=a", []⟩
    let second : Entry := ⟨"y=\"$x", ["b\" "]⟩
    let unbound : Entry := ⟨"echo $z", []⟩
    ((s.after [first]).eval second.line second.more).session.scope =
        (s.after [first]).scope.set "y" "a\nb" ∧
      (s.after ([first] ++ [second])).scope = .ofList [("x", "a"), ("y", "a\nb")] ∧
      ((s.after [first, second]).eval unbound.line unbound.more).result =
        .error (.expansion ⟨5⟩) ∧
      ((s.after [first, second]).eval unbound.line unbound.more).session =
        s.after [first, second] := by
  intro s first second unbound
  obtain ⟨hstep, -, hscope⟩ := session_scope_law s [first] second
  obtain ⟨hlast, -⟩ := session_scope_law s [first, second] unbound
  have hassigns : second.Assigns (s.after [first]).scope "y" "a\nb" :=
    ⟨["y=a\nb"], by decide +kernel, by decide +kernel⟩
  have herror : ((s.after [first, second]).eval unbound.line unbound.more).result =
      .error (.expansion ⟨5⟩) := by decide +kernel
  refine ⟨(hstep.assignment "y" "a\nb" hassigns).1, ?_, herror,
    (hlast.unread (.inl ⟨_, herror⟩)).2.1⟩
  rw [hscope]
  decide +kernel

end Session

end LineShell
