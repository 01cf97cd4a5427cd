import LineShell.Proofs.Builtin.Windows
import LineShell.Proofs.Session.PassedOn

/-!
# Where faults come from

Of all commands only `grep` can fault, and it does so only at a match whose window ends at no number
of the machine (`Command.overruns_of_fault`). A shell that is built with a check for sums that are
too large always faults there (`Command.fault_iff_overruns`). So a command line that ends the shell
has a stage which is such a search, on what the stages in front of it hand to it
(`Session.overruns_of_fault`).
-/

namespace LineShell

open Builtin

variable {σ : Type}

theorem Step.fault?_eq_some_iff {step : Step σ} {fault : Fault} :
    step.fault? = some fault ↔ step.result = .error (.command (.fault fault)) := by
  unfold fault? ShellError.fault?
  rcases step.result with (e | e | e) | outcome
  case error.command => cases e <;> simp
  all_goals simp

theorem Step.fault?_of_ok {step : Step σ} {outcome : Outcome} (h : step.result = .ok outcome) :
    step.fault? = none := by
  rw [fault?, h]

variable [System σ]

/-! ## A single stage -/

/-- The stage searches a text in which the window of a match does not fit. -/
def Command.Overruns (c : Command) (input : Option String) (world : σ) : Prop :=
  c.kind = .grep ∧ ∃ (g : Grep) (isMatch : String → Bool) (text : String),
    Grep.interface.read {} c.args = .ok (.settings g) ∧
    (System.build σ).compile g.ignoreCase g.fullPattern = some isMatch ∧
    source "grep" world g.file input = .ok text ∧
    ¬Fits isMatch g.afterContext (Text.lines text)

namespace Builtin

variable {world : σ} {input : Option String} {fault : Fault}

theorem exists_settings_of_fault {α : Type} {interface : Options.Interface α} {defaults : α}
    {args : List String} {execute : α → Except CommandError String}
    (h : run interface defaults args execute = .error (.fault fault)) :
    ∃ settings, interface.read defaults args = .ok (.settings settings) ∧
      execute settings = .error (.fault fault) := by
  unfold run at h
  split at h
  · cases h
  · cases h
  · rename_i settings hread
    exact ⟨settings, hread, h⟩

theorem source_ne_fault (command : String) (world : σ) (file input : Option String) :
    source command world file input ≠ .error (.fault fault) := by
  unfold source
  split
  · split <;> exact fun h => by cases h
  · exact fun h => by cases h
  · exact fun h => by cases h

theorem select_ne_fault {o : Overflow} {isMatch : String → Bool} {after : Nat}
    {lines : List String} (h : Fits isMatch after lines) :
    select o isMatch after lines ≠ .error fault := by
  obtain ⟨flags, hset, -⟩ := setWindows_of_fits o h
  rw [select, hset]
  exact fun h => by cases h

/-- A window that does not fit is a fault. Only the largest window of all is empty instead if sums
wrap around. -/
theorem exists_fault_of_not_fits {o : Overflow} {isMatch : String → Bool} {after : Nat}
    {lines : List String} (h : ¬Fits isMatch after lines)
    (ho : o = .stops ∨ after + 1 < Text.numberBound) :
    ∃ fault, select o isMatch after lines = .error fault := by
  obtain ⟨hstops, hwraps⟩ := setWindows_of_not_fits h
  cases o with
  | stops => exact ⟨.overflow, by rw [select, hstops]; rfl⟩
  | wraps =>
    have hafter := ho.resolve_left Overflow.noConfusion
    obtain ⟨start, stop, -, hset⟩ :=
      hwraps (Nat.lt_of_lt_of_le hafter (numberBound_le_machineBound _))
    exact ⟨.inverted start stop, by rw [select, hset]; rfl⟩

theorem Grep.exists_not_fits_of_fault {g : Grep}
    (h : g.execute world input = .error (.fault fault)) :
    ∃ isMatch text, (System.build σ).compile g.ignoreCase g.fullPattern = some isMatch ∧
      source "grep" world g.file input = .ok text ∧
      ¬Fits isMatch g.afterContext (Text.lines text) := by
  unfold Grep.execute at h
  split at h
  · cases h
  · rename_i isMatch hcompile
    split at h
    · rename_i hsource
      rw [h] at hsource
      exact absurd hsource (source_ne_fault "grep" world g.file input)
    · rename_i text hsource
      split at h
      · rename_i hselect
        exact ⟨isMatch, text, hcompile, hsource, fun hfits => select_ne_fault hfits hselect⟩
      · cases h

end Builtin

theorem Finished.result_ne_fault (name input : String) (f : Finished) (fault : Fault) :
    f.result name input ≠ .error (.fault fault) := by
  unfold result
  split_ifs <;> exact fun h => by cases h

/-- **Only `grep` faults**, and only where a window does not fit. -/
theorem Command.overruns_of_fault {c : Command} {input : Option String} {scope : Scope} {world : σ}
    {fault : Fault} (h : (c.run input scope world).result = .error (.fault fault)) :
    c.Overruns input world := by
  obtain ⟨kind, args⟩ := c
  cases kind with
  | assign =>
    simp only [run] at h
    split at h <;> cases h
  | echo => cases h
  | cat =>
    obtain ⟨file, -, hsource⟩ := exists_settings_of_fault h
    exact absurd hsource (source_ne_fault "cat" world file input)
  | wc =>
    obtain ⟨file, -, hcounts⟩ := exists_settings_of_fault h
    cases hsource : source "wc" world file input with
    | ok text => rw [hsource] at hcounts; cases hcounts
    | error e =>
      rw [hsource, Except.map, Except.error.injEq] at hcounts
      exact absurd (hcounts ▸ hsource) (source_ne_fault "wc" world file input)
  | pwd =>
    obtain ⟨-, -, hpath⟩ := exists_settings_of_fault h
    split at hpath <;> cases hpath
  | exit =>
    obtain ⟨-, -, hresult⟩ := exists_settings_of_fault h
    cases hresult
  | grep =>
    obtain ⟨g, hread, hexecute⟩ := exists_settings_of_fault h
    obtain ⟨isMatch, text, hsearch⟩ := Grep.exists_not_fits_of_fault hexecute
    exact ⟨rfl, g, isMatch, text, hread, hsearch⟩
  | external name =>
    simp only [run, runProgram] at h
    split at h
    · cases h
    · split at h
      · cases h
      · cases h
      · exact absurd h (Finished.result_ne_fault name _ _ fault)

/-- With a check for sums that are too large, a window that does not fit is always a fault. -/
theorem Command.fault_iff_overruns (hstops : (System.build σ).overflow = .stops) (c : Command)
    (input : Option String) (scope : Scope) (world : σ) :
    (∃ fault, (c.run input scope world).result = .error (.fault fault)) ↔
      c.Overruns input world := by
  refine ⟨fun ⟨fault, h⟩ => c.overruns_of_fault h, ?_⟩
  rintro ⟨hkind, g, isMatch, text, hread, hcompile, hsource, hfits⟩
  obtain ⟨fault, hselect⟩ := exists_fault_of_not_fits hfits (.inl hstops)
  exact ⟨fault, by simp only [run, hkind, Builtin.grep, Builtin.run, hread, Grep.execute, hcompile,
    hsource, hselect]⟩

/-! ## Several stages -/

/-- **A pipeline faults in a stage**, by induction on the stages in front of it. -/
theorem exists_overruns_of_runStages {stages : Pipeline} {fault : Fault} {input : Option String}
    {world : σ} (h : (runStages input world stages).1 = .error (.fault fault)) :
    ∃ before c after input' world' errors, stages = before ++ c :: after ∧
      runStages input world before = (.ok (input'.getD ""), world', errors) ∧
      c.Overruns input' world' := by
  induction stages generalizing input world with
  | nil => cases h
  | cons c rest ih =>
    cases hrun : (c.run input .empty world).result with
    | error e =>
      rw [runStages] at h
      simp only [hrun, Except.error.injEq] at h
      rw [h] at hrun
      exact ⟨[], c, rest, input, world, [], rfl, rfl, c.overruns_of_fault hrun⟩
    | ok text =>
      rw [runStages_cons_of_ok hrun] at h
      obtain ⟨before, d, after, input', world', errors, rfl, hbefore, hoverruns⟩ := ih h
      refine ⟨c :: before, d, after, input', world', (c.run input .empty world).errors ++ errors,
        rfl, ?_, hoverruns⟩
      rw [runStages_cons_of_ok hrun, hbefore]

namespace Session

/-- A stage of the command searches a text in which the window of a match does not fit. -/
def Overruns (s : Session σ) (e : Entry) : Prop :=
  ∃ words stages, (gather s.scope e.line e.more).words = .ok (some words) ∧
    Pipeline.ofWords words = .ok stages ∧
    ∃ before c after input world errors, stages = before ++ c :: after ∧
      runStages none s.world before = (.ok (input.getD ""), world, errors) ∧
      c.Overruns input world

theorem runStages_of_fault {s : Session σ} {stages : Pipeline} {fault : Fault}
    (h : (s.runPipeline stages).result = .error (.command (.fault fault))) :
    (runStages none s.world stages).1 = .error (.fault fault) := by
  have hne : stages ≠ [] := by
    rintro rfl
    cases h
  have hexit (c : Command) (hc : stages = [c]) : c.kind ≠ .exit := by
    rintro hkind
    rw [hc, runPipeline_exit s hkind] at h
    cases h
  rw [s.result_eq_runStages hne hexit] at h
  cases hrun : (runStages none s.world stages).1 with
  | ok text => rw [hrun] at h; cases h
  | error e =>
    rw [hrun] at h
    cases h
    rfl

theorem overruns_of_fault {s : Session σ} {e : Entry} {fault : Fault}
    (h : (s.eval e.line e.more).fault? = some fault) : s.Overruns e := by
  rw [Step.fault?_eq_some_iff, eval_eq_evalWith] at h
  rcases unreadable_or_stages s.scope e.line e.more with hu | ⟨words, stages, hgather, hwords⟩
  · cases hu with
    | expansionError err hgather => rw [evalWith_of_expansionError _ hgather] at h; cases h
    | abandoned hgather => rw [evalWith_of_abandoned _ hgather] at h; cases h
    | parseError words err hgather hwords =>
      rw [evalWith_of_parseError _ hgather hwords] at h
      cases h
  · rw [evalWith_of_stages _ hgather hwords] at h
    exact ⟨words, stages, hgather, hwords, exists_overruns_of_runStages (runStages_of_fault h)⟩

end Session

/-- A file whose second line is `a`. -/
def notesSystem : Sandbox := ⟨⟨[(["notes"], .file (Text.Utf8.encode "b\na\n") false)]⟩, [], ""⟩

/-- The window of that line would end at the first number that 64 bits do not hold. -/
def overrunLine : String := "grep -A 18446744073709551614 a notes"

theorem fault?_overrunLine :
    (Session.eval { world := notesSystem } overrunLine []).fault? = some .overflow := by
  decide +kernel

end LineShell
