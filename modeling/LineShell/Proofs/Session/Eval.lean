import LineShell.Session

/-!
# What one step of a session can do

`Session.eval` reads words and runs the stages that they make. There are four ways for this to go,
and later proofs go by these cases: the words cannot be expanded, the lines end inside a quote, the
words are no pipeline, or there are stages to run.

The last case is the only one in which a stage runs. This is stated by leaving open how stages are
run: `evalWith run` is `eval` with `run` in the place of `runPipeline`, and in the first three cases
it does not depend on `run`.
-/

namespace LineShell

variable {σ : Type}

theorem Progress.gather_of_isComplete (scope : Scope) {p : Progress} (h : p.isComplete = true)
    (more : List String) : p.gather scope more = ⟨.ok (some p.words), 0⟩ := by
  rw [Progress.gather.eq_def, if_pos h]

theorem gather_of_expand {scope : Scope} {line : String} {words : List String}
    (h : expand scope line = .ok { words }) (more : List String) :
    gather scope line more = ⟨.ok (some words), 0⟩ := by
  simp only [gather, h]
  exact Progress.gather_of_isComplete scope rfl more

namespace Session

/-- Evaluates a logical command as `eval` does, with `run` for the running of its stages. -/
def evalWith (run : Session σ → Pipeline → Step σ) (s : Session σ) (line : String)
    (more : List String) : Step σ :=
  let gathered := gather s.scope line more
  match gathered.words with
  | .error e => { result := .error (.expansion e), asked := gathered.asked, session := s }
  | .ok none => { result := .ok .nothing, asked := gathered.asked, session := s }
  | .ok (some words) =>
    match Pipeline.ofWords words with
    | .error e => { result := .error (.parse e), asked := gathered.asked, session := s }
    | .ok stages => { run s stages with asked := gathered.asked }

section Cases

variable {s : Session σ} {line : String} {more : List String}
  (run : Session σ → Pipeline → Step σ)

theorem eval_eq_evalWith [System σ] (s : Session σ) (line : String) (more : List String) :
    s.eval line more = s.evalWith runPipeline line more := rfl

theorem evalWith_of_expansionError {e : ExpansionError}
    (h : (gather s.scope line more).words = .error e) :
    s.evalWith run line more =
      { result := .error (.expansion e), asked := (gather s.scope line more).asked,
        session := s } := by
  simp only [evalWith, h]

theorem evalWith_of_abandoned (h : (gather s.scope line more).words = .ok none) :
    s.evalWith run line more =
      { result := .ok .nothing, asked := (gather s.scope line more).asked, session := s } := by
  simp only [evalWith, h]

theorem evalWith_of_parseError {words : List String} {e : ParseError}
    (h : (gather s.scope line more).words = .ok (some words))
    (hwords : Pipeline.ofWords words = .error e) :
    s.evalWith run line more =
      { result := .error (.parse e), asked := (gather s.scope line more).asked,
        session := s } := by
  simp only [evalWith, h, hwords]

theorem evalWith_of_stages {words : List String} {stages : Pipeline}
    (h : (gather s.scope line more).words = .ok (some words))
    (hwords : Pipeline.ofWords words = .ok stages) :
    s.evalWith run line more =
      { run s stages with asked := (gather s.scope line more).asked } := by
  simp only [evalWith, h, hwords]

end Cases

/-- The lines hold nothing to run: they cannot be expanded, end inside a quote or are no pipeline. -/
inductive Unreadable (scope : Scope) (line : String) (more : List String) : Prop where
  | expansionError (e : ExpansionError) (h : (gather scope line more).words = .error e)
  | abandoned (h : (gather scope line more).words = .ok none)
  | parseError (words : List String) (e : ParseError)
      (h : (gather scope line more).words = .ok (some words))
      (hwords : Pipeline.ofWords words = .error e)

theorem unreadable_or_stages (scope : Scope) (line : String) (more : List String) :
    Unreadable scope line more ∨
      ∃ words stages, (gather scope line more).words = .ok (some words) ∧
        Pipeline.ofWords words = .ok stages := by
  cases h : (gather scope line more).words with
  | error e => exact .inl (.expansionError e h)
  | ok found =>
    cases found with
    | none => exact .inl (.abandoned h)
    | some words =>
      cases hwords : Pipeline.ofWords words with
      | error e => exact .inl (.parseError words e h hwords)
      | ok stages => exact .inr ⟨words, stages, rfl, hwords⟩

/-! ## Running stages -/

variable [System σ]

theorem runPipeline_nil (s : Session σ) :
    s.runPipeline [] = { result := .ok .nothing, session := s } := by
  rw [runPipeline]

theorem runPipeline_exit (s : Session σ) {c : Command} (h : c.kind = .exit) :
    s.runPipeline [c] = { result := .ok .exit, session := s } := by
  rw [runPipeline, if_pos h]

theorem runPipeline_single (s : Session σ) {c : Command} (h : c.kind ≠ .exit) :
    s.runPipeline [c] =
      { result := ((c.run none s.scope s.world).result.map .output).mapError .command
        session := ⟨(c.run none s.scope s.world).scope, (c.run none s.scope s.world).world⟩
        errors := (c.run none s.scope s.world).errors } := by
  rw [runPipeline, if_neg h]

theorem runPipeline_many (s : Session σ) (c d : Command) (rest : Pipeline) :
    s.runPipeline (c :: d :: rest) =
      { result := ((runStages none s.world (c :: d :: rest)).1.map .output).mapError .command
        session := { s with world := (runStages none s.world (c :: d :: rest)).2.1 }
        errors := (runStages none s.world (c :: d :: rest)).2.2 } := rfl

end Session

section Stages

variable {σ : Type} [System σ]

theorem runStages_singleton (input : Option String) (world : σ) (c : Command) :
    runStages input world [c] =
      ((c.run input .empty world).result, (c.run input .empty world).world,
        (c.run input .empty world).errors) := by
  rw [runStages]
  cases (c.run input .empty world).result with
  | error e => rfl
  | ok text => simp only [runStages, List.append_nil, Option.getD_some]

theorem runStages_cons_of_ok {input : Option String} {world : σ} {c : Command} {text : String}
    (h : (c.run input .empty world).result = .ok text) (rest : Pipeline) :
    runStages input world (c :: rest) =
      ((runStages (some text) (c.run input .empty world).world rest).1,
        (runStages (some text) (c.run input .empty world).world rest).2.1,
        (c.run input .empty world).errors ++
          (runStages (some text) (c.run input .empty world).world rest).2.2) := by
  rw [runStages]
  simp only [h]

end Stages

end LineShell
