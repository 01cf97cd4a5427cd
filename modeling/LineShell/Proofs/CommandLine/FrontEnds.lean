import LineShell.Proofs.Expansion.Scan
import LineShell.Proofs.Repl.Groups
import LineShell.Proofs.Text.Utf8

/-!
# A line as an argument and as an input

The program runs a line that is given to it with `-c`, and it runs the lines of its input. If the
input is that one line, both show the same (`argument_runs_as_input`), although they end in
different ways: the first evaluates once, the second goes on until the lines end or the session
does, and only the first tells by its status that the line failed. A fault ends both in the same
way.

1. The bytes of a line are read as that line (`ofBytes_encode`), or as no line if it is empty.
2. An input of one line is a session of one command, whether that command is dropped inside a quote,
   ends the session or is followed by the end of the input (`reads_singleton`). No line at all is a
   session of one command that does nothing (`eval_empty`).
3. So is the line that is given as an argument (`showsStep_runLine`).
-/

namespace LineShell

variable {σ : Type}

/-! ## What runs show -/

/-- What a run leaves behind that shows a single step. -/
structure ShowsStep [System σ] (run : ProgramRun σ) (step : Step σ) : Prop where
  output : run.output = step.outputText
  errors : run.errors = step.errors ++ Text.Utf8.encode step.report ++
    step.fault?.elim [] fun fault => (System.build σ).report fault.message
  session : run.session = step.session

/-- Apart from their status, the runs leave the same behind. -/
structure ShowAlike (a b : ProgramRun σ) : Prop where
  output : a.output = b.output
  errors : a.errors = b.errors
  log : a.log = b.log
  session : a.session = b.session

variable [System σ]

theorem ShowsStep.showAlike {a b : ProgramRun σ} {step : Step σ} (ha : ShowsStep a step)
    (hb : ShowsStep b step) (hlog : a.log = b.log) : ShowAlike a b where
  output := by rw [ha.output, hb.output]
  errors := by rw [ha.errors, hb.errors]
  log := hlog
  session := by rw [ha.session, hb.session]

/-! ## The input -/

theorem Input.ofBytes_encode {line : String} (h : '\n' ∉ line.toList) :
    Input.ofBytes (Text.Utf8.encode line) = ⟨if line = "" then [] else [line], false⟩ := by
  rw [ofBytes, Text.byteLines_encode h]
  apply ofByteLines_of_decode
  by_cases hnil : line = ""
  · rw [if_pos hnil, if_pos hnil]
    rfl
  · rw [if_neg hnil, if_neg hnil, List.map_cons, Text.Utf8.decode?_encode]
    rfl

theorem reads_singleton (s : Session σ) (line : String) : Reads s [line] [⟨line, []⟩] [] := by
  rcases s.asked_eval_cases line [] with hle | ⟨hasked, hresult⟩
  · have hasked : (s.eval line []).asked = 0 := Nat.le_zero.mp hle
    by_cases hends : (s.eval line []).Ends
    · exact .ends (e := ⟨line, []⟩) [] hasked hends
    · exact .next (e := ⟨line, []⟩) hasked hends (.finished _)
  · exact .abandoned (e := ⟨line, []⟩) hasked hresult

theorem Session.eval_empty (s : Session σ) (more : List String) :
    s.eval "" more = { result := .ok .nothing, session := s } := by
  have hexpand : expand s.scope "" = .ok { words := [] } := Progress.scan_nil
  have hgather := gather_of_expand hexpand more
  rw [eval_eq_evalWith, evalWith_of_stages _ (by rw [hgather]) rfl, hgather, runPipeline_nil]

/-! ## One command -/

theorem ShowsSession.showsStep {config : Config} {run : ProgramRun σ} {s : Session σ}
    {line : String} (h : ShowsSession config run s [⟨line, []⟩]) :
    ShowsStep run (s.eval line []) where
  output := by
    rw [h.output, Session.steps, Session.steps]
    simp
  errors := by
    rw [h.errors, Session.fault?, Session.steps, Session.steps]
    simp
  session := h.session

theorem showsStep_runInput (config : Config) (s : Session σ) {line : String}
    (h : '\n' ∉ line.toList) :
    ShowsStep (CommandLine.runInput config false s (.ofBytes (Text.Utf8.encode line)))
        (s.eval line []) ∧
      (CommandLine.runInput config false s (.ofBytes (Text.Utf8.encode line))).status =
        if (s.eval line []).fault?.isSome then CommandLine.faultStatus else 0 := by
  rw [Input.ofBytes_encode h]
  by_cases hnil : line = ""
  · -- there is no line, and evaluating the empty one would have shown nothing
    have hshows := (Reads.finished s).showsSession config
    rw [if_pos hnil, hnil, s.eval_empty]
    exact ⟨⟨hshows.output, hshows.errors, hshows.session⟩, hshows.status⟩
  · have hshows := (reads_singleton s line).showsSession config
    rw [if_neg hnil]
    exact ⟨hshows.showsStep, hshows.status⟩

theorem showsStep_runLine (config : Config) (s : Session σ) (line : String) :
    ShowsStep (CommandLine.runLine config s line) (s.eval line []) := by
  have hshown : Transcript.shown (s.eval line []).events =
      [s.eval line []].flatMap Step.events := by
    rw [Transcript.shown_events]
    simp
  refine ⟨?_, ?_, rfl⟩
  · show Transcript.output false (s.eval line []).events = _
    rw [Transcript.output_of_shown hshown]
    simp
  · simp only [CommandLine.runLine, Transcript.errors_of_shown hshown]
    cases (s.eval line []).fault? <;> simp [CommandLine.report]

theorem status_runLine (config : Config) (s : Session σ) (line : String) :
    ((s.eval line []).fault? = none →
      ((CommandLine.runLine config s line).status = 1 ↔
          ∃ e, (s.eval line []).result = .error e) ∧
        ((CommandLine.runLine config s line).status = 0 ↔
          ∃ outcome, (s.eval line []).result = .ok outcome)) ∧
      ((s.eval line []).fault? ≠ none →
        (CommandLine.runLine config s line).status = CommandLine.faultStatus) := by
  constructor
  · intro hfault
    simp only [CommandLine.runLine, hfault]
    cases (s.eval line []).result <;> simp [CommandLine.status]
  · intro hfault
    obtain ⟨fault, hfault⟩ := Option.ne_none_iff_exists'.mp hfault
    simp only [CommandLine.runLine, hfault]
    cases (s.eval line []).result <;> rfl

/-! ## Both -/

theorem ofArgs_command (line : String) :
    Config.ofArgs ["-c", line] = .ok (.settings { command := some line }) := rfl

theorem ofArgs_nil : Config.ofArgs [] = .ok (.settings {}) := rfl

/-- **A line does the same as an argument and as an input.** For every line without a line feed and
every system, the program that is given the line with `-c`, whatever its input, and the program that
is given its bytes as the whole input, and no prompts to show, write the same to both streams and
leave the same session. Unless a fault ends both, the second always ends well, and the first fails
exactly if the evaluation of the line does. A fault comes from a search with a window that does not
fit. -/
theorem argument_runs_as_input (world : σ) (line : String) (h : '\n' ∉ line.toList)
    (input : List UInt8) :
    ShowAlike (CommandLine.run world false ["-c", line] input)
        (CommandLine.run world false [] (Text.Utf8.encode line)) ∧
      ((Session.eval { world } line []).fault? = none →
        (CommandLine.run world false [] (Text.Utf8.encode line)).status = 0 ∧
          ((CommandLine.run world false ["-c", line] input).status = 1 ↔
            ∃ e, (Session.eval { world } line []).result = .error e) ∧
          ((CommandLine.run world false ["-c", line] input).status = 0 ↔
            ∃ outcome, (Session.eval { world } line []).result = .ok outcome)) ∧
      ((Session.eval { world } line []).fault? ≠ none →
        (CommandLine.run world false [] (Text.Utf8.encode line)).status =
            CommandLine.faultStatus ∧
          (CommandLine.run world false ["-c", line] input).status = CommandLine.faultStatus ∧
          Session.Overruns { world } ⟨line, []⟩) := by
  have hargument : CommandLine.run world false ["-c", line] input =
      CommandLine.runLine { command := some line } { world } line := by
    rw [CommandLine.run, ofArgs_command]
  have hinput : CommandLine.run world false [] (Text.Utf8.encode line) =
      CommandLine.runInput {} false { world } (.ofBytes (Text.Utf8.encode line)) := by
    rw [CommandLine.run, ofArgs_nil]
  rw [hargument, hinput]
  obtain ⟨hshows, hstatus⟩ := showsStep_runInput {} ({ world } : Session σ) h
  obtain ⟨hwell, hfaulty⟩ := status_runLine { command := some line } ({ world } : Session σ) line
  refine ⟨(showsStep_runLine _ _ line).showAlike hshows rfl, fun hfault => ?_, fun hfault => ?_⟩
  · exact ⟨by rw [hstatus, hfault]; rfl, hwell hfault⟩
  · obtain ⟨fault, hsome⟩ := Option.ne_none_iff_exists'.mp hfault
    exact ⟨by rw [hstatus, hsome]; rfl, hfaulty hfault, Session.overruns_of_fault hsome⟩

/-- A line with a character of two bytes and a carriage return at its end, which fails. -/
theorem argument_runs_as_input_unbound :
    ShowAlike
      (CommandLine.run (⟨⟨[]⟩, [], ""⟩ : Sandbox) false ["-c", "echo é $x\r"] [])
      (CommandLine.run (⟨⟨[]⟩, [], ""⟩ : Sandbox) false [] (Text.Utf8.encode "echo é $x\r")) ∧
    (CommandLine.run (⟨⟨[]⟩, [], ""⟩ : Sandbox) false []
      (Text.Utf8.encode "echo é $x\r")).status = 0 ∧
    (CommandLine.run (⟨⟨[]⟩, [], ""⟩ : Sandbox) false ["-c", "echo é $x\r"] []).status = 1 ∧
    (CommandLine.run (⟨⟨[]⟩, [], ""⟩ : Sandbox) false ["-c", "echo é $x\r"] []).errors =
      Text.Utf8.encode "Error at position 7\n" := by
  obtain ⟨halike, hwell, -⟩ := argument_runs_as_input (⟨⟨[]⟩, [], ""⟩ : Sandbox)
    "echo é $x\r" (by decide) []
  have hresult : (Session.eval ({ world := ⟨⟨[]⟩, [], ""⟩ } : Session Sandbox)
      "echo é $x\r" []).result = .error (.expansion ⟨7⟩) := by decide +kernel
  obtain ⟨hstatus, hfails, -⟩ := hwell (by rw [Step.fault?, hresult]; rfl)
  exact ⟨halike, hstatus, hfails.mpr ⟨_, hresult⟩, by decide +kernel⟩

/-- A search with a window that does not fit ends the program in both ways. -/
theorem argument_faults_as_input :
    (CommandLine.run notesSystem false ["-c", overrunLine] []).status = 101 ∧
      (CommandLine.run notesSystem false ["-c", overrunLine] []).output = "" ∧
      (CommandLine.run notesSystem false [] (Text.Utf8.encode overrunLine)).status = 101 := by
  have hline : '\n' ∉ overrunLine.toList := by decide
  obtain ⟨-, hstatus⟩ :=
    showsStep_runInput {} ({ world := notesSystem } : Session Sandbox) hline
  refine ⟨by decide +kernel, by decide +kernel, ?_⟩
  rw [CommandLine.run, ofArgs_nil]
  rw [fault?_overrunLine] at hstatus
  exact hstatus

end LineShell
