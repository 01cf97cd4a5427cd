import LineShell.Proofs.Session.Scope

/-!
# A stage that passes its input on

`cat` without arguments puts out what it is fed. Put anywhere behind the first stage of a pipeline,
also at its end, it is not noticed (`cat_stage_identity`): the output or the error is the same, and
so is what the stages did to the system around them.

1. A fed `cat` succeeds with its input, in any scope, and touches nothing (`run_catInput`).
2. Between stages that run one after the other it can be left out, by induction on the stages in
   front of it: the first of them fails, or feeds the rest (`runStages_insert_cat`).
3. One stage alone works on the scope of the session, and next to a `cat` on a scope of its own. A
   command does the same in every scope, apart from what it leaves bound there
   (`Command.run_of_scope`).
-/

namespace LineShell

variable {σ : Type} [System σ]

/-- `cat` without arguments. -/
def catInput : Command := .named "cat" []

theorem run_catInput (text : String) (scope : Scope) (world : σ) :
    catInput.run (some text) scope world = { result := .ok text, scope, world } := rfl

theorem runStages_catInput (text : String) (world : σ) (rest : Pipeline) :
    runStages (some text) world (catInput :: rest) = runStages (some text) world rest := by
  have hcat := run_catInput text .empty world
  rw [runStages_cons_of_ok (by rw [hcat]), hcat, List.nil_append]

/-- **Among stages.** There is a stage in front, so `cat` is fed whenever it is reached. -/
theorem runStages_insert_cat (input : Option String) (world : σ) (first : Command)
    (before after : Pipeline) :
    runStages input world (first :: (before ++ catInput :: after)) =
      runStages input world (first :: (before ++ after)) := by
  induction before generalizing input world first with
  | nil =>
    cases hrun : (first.run input .empty world).result with
    | error e => simp only [runStages, hrun]
    | ok text =>
      rw [runStages_cons_of_ok hrun, runStages_cons_of_ok hrun, List.nil_append, List.nil_append,
        runStages_catInput]
  | cons second before ih =>
    cases hrun : (first.run input .empty world).result with
    | error e => simp only [runStages, hrun]
    | ok text =>
      rw [runStages_cons_of_ok hrun, runStages_cons_of_ok hrun, List.cons_append, List.cons_append,
        ih]

namespace Session

/-- What a pipeline does that keeps to the scopes of its own stages. -/
def runApart (s : Session σ) (stages : Pipeline) : Step σ :=
  { result := ((runStages none s.world stages).1.map .output).mapError .command
    session := { s with world := (runStages none s.world stages).2.1 }
    errors := (runStages none s.world stages).2.2 }

/-- **Alone or in a row.** A pipeline that is not a single `exit` gives the same if every stage has
a scope of its own, and leaves the same system behind; only the scope of the session is spared. -/
theorem runApart_eq (s : Session σ) (first : Command) (rest : Pipeline)
    (hexit : rest = [] → first.kind ≠ .exit) :
    s.runApart (first :: rest) =
      { s.runPipeline (first :: rest) with
        session :=
          { scope := s.scope, world := (s.runPipeline (first :: rest)).session.world } } := by
  cases rest with
  | nil =>
    have hrun := first.run_of_scope none s.scope .empty s.world
    rw [runPipeline_single s (hexit rfl), runApart, runStages_singleton, hrun]
  | cons second rest => rw [runPipeline_many]; rfl

theorem result_eq_runStages (s : Session σ) {stages : Pipeline} (hne : stages ≠ [])
    (hexit : ∀ c, stages = [c] → c.kind ≠ .exit) :
    (s.runPipeline stages).result =
      ((runStages none s.world stages).1.map .output).mapError .command := by
  obtain ⟨first, rest, rfl⟩ := List.exists_cons_of_ne_nil hne
  have hapart := s.runApart_eq first rest fun hrest => hexit first (by rw [hrest])
  exact (congrArg Step.result hapart).symm

/-- **`cat` is the identity of pipelines.** Behind the first stage of a pipeline that is not a
single `exit`, at any place, a `cat` without arguments changes neither the output nor the error nor
what programs write to their error streams nor the system that is left behind. The only trace is
that an assignment which stood alone does not reach the session any more. -/
theorem cat_stage_identity (s : Session σ) (first : Command) (before after : Pipeline)
    (hexit : before ++ after = [] → first.kind ≠ .exit) :
    s.runPipeline (first :: (before ++ catInput :: after)) =
      { s.runPipeline (first :: (before ++ after)) with
        session :=
          { scope := s.scope
            world := (s.runPipeline (first :: (before ++ after))).session.world } } := by
  have hapart : s.runPipeline (first :: (before ++ catInput :: after)) =
      s.runApart (first :: (before ++ catInput :: after)) := by
    obtain ⟨second, rest, hrest⟩ := List.exists_cons_of_ne_nil
      (List.append_ne_nil_of_right_ne_nil before (List.cons_ne_nil catInput after))
    rw [hrest]
    exact runPipeline_many s first second rest
  rw [hapart, ← runApart_eq s first (before ++ after) hexit, runApart, runStages_insert_cat]
  rfl

/-- An assignment that is moved from the scope of the session to one of its own, and a stage that
fails behind the `cat`. -/
theorem cat_stage_identity_two :
    let s : Session Sandbox := { world := ⟨⟨[]⟩, [], ""⟩ }
    let assign : Command := .assignment "x" "1"
    let wc : Command := .named "wc" ["none"]
    assign.kind ≠ .exit ∧
      (s.runPipeline [assign]).session.scope = .ofList [("x", "1")] ∧
      (s.runPipeline [assign, catInput]).session.scope = .empty ∧
      (s.runPipeline [assign, catInput]).result = .ok (.output "") ∧
      (s.runPipeline [assign, catInput, wc]).result =
        .error (.command (.unreadable "wc" "none")) := by
  intro s assign wc
  have hkind : assign.kind ≠ .exit := Kind.noConfusion
  have hlast := cat_stage_identity s assign [] [] fun _ => hkind
  have hinside := cat_stage_identity s assign [] [wc] fun _ => hkind
  simp only [List.nil_append] at hlast hinside
  refine ⟨hkind, by decide +kernel, ?_, ?_, ?_⟩
  · rw [hlast]
  · rw [hlast]
    rfl
  · rw [hinside]
    rfl

end Session

end LineShell
