import LineShell.Proofs.CommandLine.FrontEnds
import LineShell.Proofs.Text.Lines

/-!
# Inputs that break off

A line of an input can be bytes that are no text. Such a line acts as the end of the input: the run
does what it does on the lines in front of it alone. Then it fails with a report, unless an `exit`
or a fault has ended it before and the line is never asked for (`broken_line_ends_run`).

1. The lines in front are text, and the bytes can be cut in front of the line (`exists_lines_cut`),
   so the run on the lines in front is the run on a part of the input.
2. Both runs go along the same groups (`Reads.breaksOff`).
3. If the line is asked for inside a quote, the command that asks for it is dropped
   (`Session.eval_of_pending`).
-/

namespace LineShell

variable {σ : Type}

/-! ## The lines in front -/

theorem Input.ofByteLines_of_broken {before after : List (List UInt8)} {lines : List String}
    {line : List UInt8} (h : before.map Text.Utf8.decode? = lines.map some)
    (hline : Text.Utf8.decode? line = none) :
    ofByteLines (before ++ line :: after) = ⟨lines, true⟩ := by
  induction before generalizing lines with
  | nil =>
    cases lines with
    | nil => simp only [List.nil_append, ofByteLines, hline]
    | cons text lines => cases h
  | cons piece before ih =>
    cases lines with
    | nil => cases h
    | cons text lines =>
      obtain ⟨hpiece, hbefore⟩ := List.cons.inj h
      simp only [List.cons_append, ofByteLines, hpiece, ih hbefore]

theorem exists_texts {pieces : List (List UInt8)}
    (h : ∀ piece ∈ pieces, Text.Utf8.decode? piece ≠ none) :
    ∃ lines : List String, pieces.map Text.Utf8.decode? = lines.map some := by
  induction pieces with
  | nil => exact ⟨[], rfl⟩
  | cons piece pieces ih =>
    obtain ⟨text, htext⟩ := Option.ne_none_iff_exists'.mp (h piece List.mem_cons_self)
    obtain ⟨lines, hlines⟩ := ih fun piece hp => h piece (List.mem_cons_of_mem _ hp)
    exact ⟨text :: lines, by rw [List.map_cons, htext, hlines, List.map_cons]⟩

variable [System σ]

/-! ## Both runs -/

/-- The run does what the other one does, and unless the last command of the session ends that one,
it fails after that with the report of an input that is no text. -/
structure BreaksOff (run cut : ProgramRun σ) (s : Session σ) (groups : List Entry) : Prop where
  output : run.output = cut.output
  log : run.log = cut.log
  session : run.session = cut.session
  of_exit : s.EndsByExit groups → run.errors = cut.errors ∧ run.status = 0
  of_fault : s.fault? groups ≠ none →
    run.errors = cut.errors ∧ run.status = CommandLine.faultStatus
  of_neither : ¬s.EndsByExit groups → s.fault? groups = none →
    run.errors = cut.errors ++ Text.Utf8.encode CommandLine.brokenInput ∧ run.status = 1

theorem Reads.breaksOff {s : Session σ} {lines unread : List String} {groups : List Entry}
    (h : Reads s lines groups unread) (config : Config) :
    BreaksOff (CommandLine.runInput config false s ⟨lines, true⟩)
      (CommandLine.runInput config false s ⟨lines, false⟩) s groups := by
  have hrun := h.runsAlong config true
  have hcut := h.runsAlong config false
  have hrunStop := hrun.stop
  have hcutStop := hcut.stop
  have herrors : (Repl.run config true s lines).events.errors =
      (Repl.run config false s lines).events.errors := by
    rw [Transcript.errors_of_shown hrun.shown, Transcript.errors_of_shown hcut.shown]
  refine ⟨?_, congrArg (CommandLine.logged config) (hrun.log.trans hcut.log.symm),
    hrun.session.trans hcut.session.symm, fun hexit => ?_, fun hfault => ?_, fun hexit hfault => ?_⟩
  · exact (Transcript.output_of_shown hrun.shown).trans
      (Transcript.output_of_shown hcut.shown).symm
  · rw [(Session.stop_of_exit hexit _).1] at hrunStop hcutStop
    simp only [CommandLine.runInput, hrunStop, hcutStop, herrors, true_and]
    rfl
  · obtain ⟨fault, hfault⟩ := Option.ne_none_iff_exists'.mp hfault
    rw [Session.stop_of_fault hfault] at hrunStop hcutStop
    simp only [CommandLine.runInput, hrunStop, hcutStop, herrors, true_and]
    rfl
  · rw [Session.stop_of_broken hexit hfault] at hrunStop
    rw [Session.stop_false, hfault, Option.elim_none] at hcutStop
    simp only [CommandLine.runInput, hrunStop, hcutStop, herrors, CommandLine.report,
      List.append_nil, true_and]
    rfl

/-- **A command that asks for more lines than there are is dropped**: it leaves the session as it
was and writes nothing. -/
theorem Session.eval_of_pending {s : Session σ} {e : Entry}
    (h : (s.eval e.line e.more).asked = e.more.length + 1) :
    s.eval e.line e.more =
      { result := .ok .nothing, asked := e.more.length + 1, session := s } := by
  rw [asked_eval] at h
  rcases asked_gather s.scope e.line e.more with ⟨hle, -⟩ | ⟨-, hwords⟩
  · omega
  · rw [eval_eq_evalWith, evalWith_of_abandoned _ hwords, h]

/-- **A line that is no text ends the input.** For every system, every settings that name no command
and every bytes of which some line is no text and all lines in front of it are: the bytes begin with
these lines, and on any bytes of these lines alone the program is a session over groups of them. On
all bytes it writes the same to its output and leaves the same session. If the session ends by an
exit or a fault, nothing else happens, and otherwise the program fails after that with its report.
The last group may be a command that asks for the line inside a quote; it is then not run. -/
theorem broken_line_ends_run (world : σ) {args : List String} {config : Config}
    (hargs : Config.ofArgs args = .ok (.settings config)) (hcommand : config.command = none)
    {bytes line : List UInt8} {before after : List (List UInt8)}
    (hlines : Text.byteLines bytes = before ++ line :: after)
    (hbefore : ∀ piece ∈ before, Text.Utf8.decode? piece ≠ none)
    (hline : Text.Utf8.decode? line = none) :
    (∃ front, front <+: bytes ∧ Text.byteLines front = before) ∧
      ∀ front, Text.byteLines front = before →
        ∃ lines groups unread, before.map Text.Utf8.decode? = lines.map some ∧
          Segmentation ({ world } : Session σ) lines groups unread ∧
          ShowsSession config (CommandLine.run world false args front) { world } groups ∧
          BreaksOff (CommandLine.run world false args bytes)
            (CommandLine.run world false args front) { world } groups ∧
          ∀ first e, groups = first ++ [e] →
            ((Session.after { world } first).eval e.line e.more).asked = e.more.length + 1 →
              (Session.after { world } first).eval e.line e.more =
                { result := .ok .nothing, asked := e.more.length + 1
                  session := Session.after { world } first } := by
  have hrun (input : List UInt8) : CommandLine.run world false args input =
      CommandLine.runInput config false { world } (.ofBytes input) := by
    simp only [CommandLine.run, hargs, hcommand]
  constructor
  · obtain ⟨front, behind, hbytes, hfront, -⟩ :=
      Text.exists_lines_cut hlines (List.cons_ne_nil line after)
    exact ⟨front, ⟨behind, hbytes.symm⟩, hfront⟩
  · intro front hfront
    obtain ⟨lines, htexts⟩ := exists_texts hbefore
    obtain ⟨groups, unread, hcut⟩ := exists_reads ({ world } : Session σ) lines
    have hwhole : Input.ofBytes bytes = ⟨lines, true⟩ := by
      rw [Input.ofBytes, hlines, Input.ofByteLines_of_broken htexts hline]
    have hpart : Input.ofBytes front = ⟨lines, false⟩ := by
      rw [Input.ofBytes, hfront, Input.ofByteLines_of_decode htexts]
    rw [hrun, hrun, hwhole, hpart]
    exact ⟨lines, groups, unread, htexts, hcut.segmentation, hcut.showsSession config,
      hcut.breaksOff config, fun first e _ => Session.eval_of_pending⟩

/-- The third line is one byte that is no text. It would continue the second command, which is
dropped, and the last line is not read. -/
theorem broken_line_ends_run_quote :
    let here : Sandbox := .ofEntries ["home"] "" []
    let front := Text.Utf8.encode "echo a\r\nx='b\n"
    let bytes := front ++ [0xFF, 10] ++ Text.Utf8.encode "echo c\n"
    Text.byteLines bytes =
        [Text.Utf8.encode "echo a", Text.Utf8.encode "x='b"] ++ [0xFF] ::
          [Text.Utf8.encode "echo c"] ∧
      (CommandLine.run here false [] bytes).output =
        (CommandLine.run here false [] front).output ∧
      (CommandLine.run here false [] bytes).session =
        (CommandLine.run here false [] front).session ∧
      (CommandLine.run here false [] bytes).output = "a\n" ∧
      (CommandLine.run here false [] bytes).status = 1 := by
  intro here front bytes
  have hlines : Text.byteLines bytes =
      [Text.Utf8.encode "echo a", Text.Utf8.encode "x='b"] ++ [0xFF] ::
        [Text.Utf8.encode "echo c"] := by decide +kernel
  obtain ⟨-, hruns⟩ := broken_line_ends_run here ofArgs_nil rfl hlines (by decide +kernel)
    (by decide +kernel)
  obtain ⟨lines, groups, unread, -, -, -, hbreaks, -⟩ := hruns front (by decide +kernel)
  exact ⟨hlines, hbreaks.output, hbreaks.session, by decide +kernel, by decide +kernel⟩

/-- Behind a fault, a line that is no text is not reported. -/
theorem broken_line_behind_fault :
    let bytes := Text.Utf8.encode (overrunLine ++ "\n") ++ [0xFF, 10]
    Text.byteLines bytes = [Text.Utf8.encode overrunLine, [0xFF]] ∧
      Text.Utf8.decode? [0xFF] = none ∧
      (Session.eval { world := notesSystem } overrunLine []).result ≠ .ok .exit ∧
      (CommandLine.run notesSystem false [] bytes).status = 101 := by
  intro bytes
  let step := Session.eval { world := notesSystem } overrunLine []
  have hexit : step.result ≠ .ok .exit := fun hexit =>
    Option.some_ne_none _ (fault?_overrunLine.symm.trans (Step.fault?_of_ok hexit))
  have hends : step.Ends := .inr (fault?_overrunLine ▸ Option.some_ne_none _)
  have hasked : step.asked ≤ 0 := by decide +kernel
  have hrun : Repl.run {} true { world := notesSystem } [overrunLine] = _ :=
    Repl.run_ends (fun _ => hasked) hends
  have hinput : Input.ofBytes bytes = ⟨[overrunLine], true⟩ := by decide +kernel
  refine ⟨by decide +kernel, by decide +kernel, hexit, ?_⟩
  rw [CommandLine.run, ofArgs_nil]
  show CommandLine.status (Repl.run _ (Input.ofBytes bytes).isBroken _ _).stop = _
  rw [hinput, hrun, Step.stop, fault?_overrunLine]
  rfl

end LineShell
