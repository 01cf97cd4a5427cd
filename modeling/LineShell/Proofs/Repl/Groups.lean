import LineShell.CommandLine
import LineShell.Proofs.Session.Reading
import LineShell.Proofs.Stage.Faults

/-!
# A run over an input is a session over groups of its lines

`Repl.run` takes commands from a list of lines, of which each command takes as many as it asks for.
Here the lines are cut into groups, one for each command, and the run is shown to be the session in
which each command is evaluated on its group alone (`runInput_eq_session`).

1. `Reads` says how lines are cut: one rule for each way to go on after a command. Every list of
   lines has such a cut (`exists_reads`), because a step depends on no line that it has not asked
   for.
2. Along a cut, the run shows and logs what the steps of the session do and ends where they end
   (`Reads.runsAlong`). Prompts apart, it shows nothing else. A line that is no text can follow the
   lines; the run is then broken off unless a command has ended it before.
3. `Reads.segmentation` reads off what a cut is: all lines are in it, in order; each command asks
   for the lines of its group; and lines stay unread only after a command that ends the run, by
   `exit` or by a fault. A fault is the only reason for which the program does not end well
   (`ShowsSession`).
-/

namespace LineShell

variable {σ : Type}

/-! ## What is shown -/

/-- What a step adds to the output. -/
def Step.outputText (step : Step σ) : String :=
  match step.result with
  | .ok (.output text) => text ++ "\n"
  | _ => ""

/-- What the shell reports of a step that fails. Of a fault it reports nothing itself. -/
def Step.report (step : Step σ) : String :=
  match step.result with
  | .error e => if e.fault?.isSome then "" else e.message ++ "\n"
  | _ => ""

/-- What the shell itself adds to the error stream. -/
def Event.report : Event → String
  | .failure e => e.message ++ "\n"
  | _ => ""

def Event.isPrompt : Event → Bool
  | .prompt _ => true
  | _ => false

namespace Transcript

/-- The reports of failures, in order. -/
def reports (t : Transcript) : String := String.join (t.map Event.report)

/-- The transcript without its prompts. -/
def shown (t : Transcript) : Transcript := t.filter (!·.isPrompt)

theorem shown_append (t u : Transcript) : shown (t ++ u) = shown t ++ shown u :=
  List.filter_append t u

theorem shown_prompts (config : Config) (asked : Nat) : shown (Repl.prompts config asked) = [] := by
  rw [shown, List.filter_eq_nil_iff]
  intro event hevent
  rcases List.mem_cons.mp hevent with rfl | hevent
  · simp [Event.isPrompt]
  · rw [List.eq_of_mem_replicate hevent]
    simp [Event.isPrompt]

theorem shown_events (step : Step σ) : shown step.events = step.events := by
  unfold shown Step.events
  split
  case h_3 e _ => cases e.fault? <;> rfl
  all_goals rfl

theorem flatMap_shown {α : Type} {f : Event → List α} (hf : ∀ text, f (.prompt text) = [])
    (t : Transcript) : (shown t).flatMap f = t.flatMap f := by
  induction t with
  | nil => rfl
  | cons event t ih =>
    rw [List.flatMap_cons, ← ih]
    cases event with
    | prompt text => rw [hf]; rfl
    | _ => exact List.flatMap_cons

theorem join_map_shown {f : Event → String} (hf : ∀ text, f (.prompt text) = "")
    (t : Transcript) : String.join ((shown t).map f) = String.join (t.map f) := by
  apply String.toList_inj.mp
  rw [String.toList_join, String.toList_join, List.flatMap_map, List.flatMap_map]
  exact flatMap_shown (fun text => by rw [hf]; rfl) t

section Steps

variable {t : Transcript} {steps : List (Step σ)}

/-- A transcript that shows steps has the texts of the steps, one after the other. -/
theorem join_map_of_shown {f : Event → String} {g : Step σ → String}
    (hf : ∀ text, f (.prompt text) = "")
    (hg : ∀ step : Step σ, String.join (step.events.map f) = g step)
    (h : t.shown = steps.flatMap Step.events) :
    String.join (t.map f) = String.join (steps.map g) := by
  rw [← join_map_shown hf, h]
  clear h
  induction steps with
  | nil => rfl
  | cons step steps ih =>
    rw [List.flatMap_cons, List.map_append, String.join_append, hg, ih, List.map_cons,
      String.join_cons]

theorem output_of_shown (h : t.shown = steps.flatMap Step.events) :
    t.output false = String.join (steps.map Step.outputText) := by
  apply join_map_of_shown (fun _ => rfl) _ h
  rintro ⟨e | _ | text | _, asked, session, errors⟩
  case error =>
    cases hfault : e.fault? <;> simp [Step.events, Step.outputText, Event.toOutput, hfault]
  all_goals simp [Step.events, Step.outputText, Event.toOutput]

theorem reports_of_shown (h : t.shown = steps.flatMap Step.events) :
    t.reports = String.join (steps.map Step.report) := by
  apply join_map_of_shown (fun _ => rfl) _ h
  rintro ⟨e | _ | text | _, asked, session, errors⟩
  case error => cases hfault : e.fault? <;> simp [Step.events, Step.report, Event.report, hfault]
  all_goals simp [Step.events, Step.report, Event.report]

theorem errors_of_shown (h : t.shown = steps.flatMap Step.events) :
    t.errors = steps.flatMap fun step => step.errors ++ Text.Utf8.encode step.report := by
  rw [errors, ← flatMap_shown (fun _ => rfl), h, List.flatMap_assoc]
  apply List.flatMap_congr
  rintro ⟨e | _ | text | _, asked, session, errors⟩ -
  case error =>
    cases hfault : e.fault? <;>
      simp [Step.events, Step.report, Event.toErrors, Text.Utf8.encode, hfault]
  all_goals simp [Step.events, Step.report, Event.toErrors, Text.Utf8.encode]

end Steps

end Transcript

/-! ## Steps that end a run -/

/-- The step ends the run. -/
def Step.Ends (step : Step σ) : Prop := step.result = .ok .exit ∨ step.fault? ≠ none

/-- Why a run stops after its last step, if the lines run out there and a line that is no text
follows them or not. -/
def Step.stop (isBroken : Bool) (step : Step σ) : Repl.Stop :=
  match step.fault? with
  | some fault => .fault fault
  | none => if isBroken = true ∧ step.result ≠ .ok .exit then .broken else .finished

theorem Step.not_ends_of_nothing {step : Step σ} (h : step.result = .ok .nothing) : ¬step.Ends := by
  rintro (hexit | hfault)
  · rw [h] at hexit
    cases hexit
  · exact hfault (fault?_of_ok h)

theorem Step.stop_of_not_ends {step : Step σ} (h : ¬step.Ends) (isBroken : Bool) :
    step.stop isBroken = if isBroken then .broken else .finished := by
  obtain ⟨hexit, hfault⟩ := not_or.mp h
  rw [stop, not_ne_iff.mp hfault]
  simp only [ne_eq, hexit, not_false_eq_true, and_true]

/-! ## Cutting lines into groups -/

/-- The lines of a group. -/
def Entry.lines (e : Entry) : List String := e.line :: e.more

variable [System σ]

namespace Session

/-- The steps of commands that are evaluated one after the other. -/
def steps (s : Session σ) : List Entry → List (Step σ)
  | [] => []
  | e :: entries =>
    s.eval e.line e.more :: (s.eval e.line e.more).session.steps entries

/-- What these commands log, with a warning of each that fails. -/
def logs (s : Session σ) : List Entry → List LogLine
  | [] => []
  | e :: entries =>
    s.log e.line e.more ++ (s.eval e.line e.more).warning e.lines ++
      (s.eval e.line e.more).session.logs entries

/-- The fault at which the last of these commands ended. -/
def fault? (s : Session σ) (entries : List Entry) : Option Fault :=
  (s.steps entries).getLast?.bind Step.fault?

/-- The last of these commands ends the session. -/
def EndsByExit (s : Session σ) (entries : List Entry) : Prop :=
  ∃ step, (s.steps entries).getLast? = some step ∧ step.result = .ok .exit

/-- Why a run stops after these commands. -/
def stop (isBroken : Bool) (s : Session σ) (entries : List Entry) : Repl.Stop :=
  match (s.steps entries).getLast? with
  | some step => step.stop isBroken
  | none => if isBroken then .broken else .finished

end Session

/-- Taking commands from `lines` until they end or the run does takes the lines of `groups`, one
group for each command, and leaves `unread`. -/
inductive Reads : Session σ → List String → List Entry → List String → Prop where
  /-- There are no more lines. -/
  | finished (s : Session σ) : Reads s [] [] []
  /-- The lines run out inside a quote. -/
  | abandoned {s : Session σ} {e : Entry}
      (hasked : (s.eval e.line e.more).asked = e.more.length + 1)
      (hresult : (s.eval e.line e.more).result = .ok .nothing) : Reads s e.lines [e] []
  /-- The command ends the run, by `exit` or by a fault. -/
  | ends {s : Session σ} {e : Entry} (unread : List String)
      (hasked : (s.eval e.line e.more).asked = e.more.length)
      (hends : (s.eval e.line e.more).Ends) : Reads s (e.lines ++ unread) [e] unread
  /-- The next line starts the next command, also if this one failed. -/
  | next {s : Session σ} {e : Entry} {rest : List String} {groups : List Entry}
      {unread : List String} (hasked : (s.eval e.line e.more).asked = e.more.length)
      (hends : ¬(s.eval e.line e.more).Ends)
      (hrest : Reads (s.eval e.line e.more).session rest groups unread) :
      Reads s (e.lines ++ rest) (e :: groups) unread

/-- A command whose lines do not run out has a group: evaluated on its group alone it does the same,
and the group is what it asks for. -/
theorem exists_group {s : Session σ} {line : String} {rest : List String}
    (h : (s.eval line rest).asked ≤ rest.length) :
    ∃ e : Entry, line :: rest = e.lines ++ rest.drop (s.eval line rest).asked ∧
      s.eval e.line e.more = s.eval line rest ∧ (s.eval line rest).asked = e.more.length := by
  refine ⟨⟨line, rest.take (s.eval line rest).asked⟩, ?_, ?_, ?_⟩
  · exact congrArg (line :: ·) (List.take_append_drop _ rest).symm
  · exact Session.eval_eq_of_asked h List.prefix_rfl
  · exact (List.length_take_of_le h).symm

/-- **Every list of lines can be cut**, by induction on how many there are. -/
theorem exists_reads (s : Session σ) (lines : List String) :
    ∃ groups unread, Reads s lines groups unread := by
  induction hn : lines.length using Nat.strong_induction_on generalizing s lines with
  | _ n ih =>
    cases lines with
    | nil => exact ⟨[], [], .finished s⟩
    | cons line rest =>
      rcases s.asked_eval_cases line rest with hle | ⟨hasked, hresult⟩
      · obtain ⟨e, hlines, heval, hasked⟩ := exists_group hle
        rw [← heval] at hasked
        rw [hlines]
        by_cases hends : (s.eval e.line e.more).Ends
        · exact ⟨[e], _, .ends _ hasked hends⟩
        · have hlt : (rest.drop (s.eval line rest).asked).length < n := by
            rw [← hn, List.length_drop, List.length_cons]
            omega
          obtain ⟨groups, unread, hrest⟩ := ih _ hlt (s.eval e.line e.more).session _ rfl
          exact ⟨e :: groups, unread, .next hasked hends hrest⟩
      · exact ⟨[⟨line, rest⟩], [], .abandoned (e := ⟨line, rest⟩) hasked hresult⟩

/-! ## The run along a cut -/

theorem Session.stop_cons {s : Session σ} {e : Entry} (h : ¬(s.eval e.line e.more).Ends)
    (isBroken : Bool) (groups : List Entry) :
    s.stop isBroken (e :: groups) = (s.eval e.line e.more).session.stop isBroken groups := by
  unfold stop
  rw [steps, List.getLast?_cons]
  cases ((s.eval e.line e.more).session.steps groups).getLast? with
  | none => exact Step.stop_of_not_ends h isBroken
  | some step => rfl

theorem Session.getLast?_steps_concat (s : Session σ) (before : List Entry) (e : Entry) :
    (s.steps (before ++ [e])).getLast? = some ((s.after before).eval e.line e.more) := by
  induction before generalizing s with
  | nil => rfl
  | cons first before ih =>
    rw [List.cons_append, steps, List.getLast?_cons, ih]
    rfl

theorem Session.stop_false (s : Session σ) (groups : List Entry) :
    s.stop false groups = (s.fault? groups).elim .finished .fault := by
  unfold stop fault? Step.stop
  cases (s.steps groups).getLast? with
  | none => rfl
  | some step =>
    simp only [Option.bind_some]
    cases step.fault? <;> rfl

theorem Session.stop_of_exit {s : Session σ} {groups : List Entry} (h : s.EndsByExit groups)
    (isBroken : Bool) : s.stop isBroken groups = .finished ∧ s.fault? groups = none := by
  obtain ⟨step, hstep, hexit⟩ := h
  have hfault := Step.fault?_of_ok hexit
  simp only [stop, fault?, hstep, Step.stop, Option.bind_some, hfault, hexit, ne_eq,
    not_true_eq_false, and_false, if_false, and_self]

theorem Session.stop_of_fault {s : Session σ} {groups : List Entry} {fault : Fault}
    (h : s.fault? groups = some fault) (isBroken : Bool) :
    s.stop isBroken groups = .fault fault := by
  obtain ⟨step, hstep, hfault⟩ := Option.bind_eq_some_iff.mp h
  simp only [stop, hstep, Step.stop, hfault]

theorem Session.stop_of_broken {s : Session σ} {groups : List Entry} (h : ¬s.EndsByExit groups)
    (hfault : s.fault? groups = none) : s.stop true groups = .broken := by
  unfold stop
  cases hstep : (s.steps groups).getLast? with
  | none => rfl
  | some step =>
    have hexit : step.result ≠ .ok .exit := fun hexit => h ⟨step, hstep, hexit⟩
    rw [fault?, hstep, Option.bind_some] at hfault
    simp only [Step.stop, hfault, ne_eq, hexit, not_false_eq_true, and_self, if_true]

namespace Repl

variable {config : Config} {isBroken : Bool} {s : Session σ} {line : String} {rest : List String}

/-- What the command that starts with `line` shows. -/
def stepEvents (config : Config) (s : Session σ) (line : String) (rest : List String) :
    Transcript :=
  prompts config (s.eval line rest).asked ++ (s.eval line rest).events

/-- What it logs. -/
def stepLog (s : Session σ) (line : String) (rest : List String) : List LogLine :=
  s.log line rest ++ (s.eval line rest).warning (line :: rest.take (s.eval line rest).asked)

/-- The command asks for a line that is no text. -/
theorem run_broken (h : rest.length < (s.eval line rest).asked) :
    run config true s (line :: rest) =
      { events := stepEvents config s line rest
        log := stepLog s line rest
        session := (s.eval line rest).session
        stop := .broken } := by
  rw [run]
  simp only [h, decide_true, Bool.and_self, if_true]
  rfl

theorem run_ends (hbroken : isBroken = true → (s.eval line rest).asked ≤ rest.length)
    (h : (s.eval line rest).Ends) :
    run config isBroken s (line :: rest) =
      { events := stepEvents config s line rest
        log := stepLog s line rest
        session := (s.eval line rest).session
        stop := (s.eval line rest).stop isBroken } := by
  rw [run, if_neg (by simpa using hbroken)]
  cases hfault : (s.eval line rest).fault? with
  | some fault =>
    simp only [Step.stop, hfault]
    rfl
  | none =>
    have hexit := h.resolve_right (not_ne_iff.mpr hfault)
    simp only [Step.stop, hfault, hexit, ne_eq, not_true_eq_false, and_false, if_false]
    rfl

theorem run_next (hbroken : isBroken = true → (s.eval line rest).asked ≤ rest.length)
    (h : ¬(s.eval line rest).Ends) :
    run config isBroken s (line :: rest) =
      let later :=
        run config isBroken (s.eval line rest).session (rest.drop (s.eval line rest).asked)
      { later with
        events := stepEvents config s line rest ++ later.events
        log := stepLog s line rest ++ later.log } := by
  obtain ⟨hexit, hfault⟩ := not_or.mp h
  rw [run, if_neg (by simpa using hbroken)]
  split
  · rename_i fault heq
    exact absurd heq (by rw [not_ne_iff.mp hfault]; simp)
  · split
    · rename_i heq
      exact absurd heq hexit
    · rfl

theorem shown_stepEvents (config : Config) (s : Session σ) (line : String) (rest : List String) :
    (stepEvents config s line rest).shown = (s.eval line rest).events := by
  rw [stepEvents, Transcript.shown_append, Transcript.shown_prompts, List.nil_append,
    Transcript.shown_events]

end Repl

/-- What a run shows and logs along a cut, and where it ends and why. -/
structure RunsAlong (ending : Repl.Ending σ) (isBroken : Bool) (s : Session σ)
    (groups : List Entry) : Prop where
  shown : ending.events.shown = (s.steps groups).flatMap Step.events
  log : ending.log = s.logs groups
  session : ending.session = s.after groups
  stop : ending.stop = s.stop isBroken groups

namespace Reads

variable {s : Session σ} {lines unread : List String} {groups : List Entry}

/-- A command does and logs on the lines that are left what it does and logs on its group. -/
theorem eval_append {e : Entry} (hasked : (s.eval e.line e.more).asked = e.more.length)
    (rest : List String) :
    s.eval e.line (e.more ++ rest) = s.eval e.line e.more ∧
      Repl.stepLog s e.line (e.more ++ rest) =
        s.log e.line e.more ++ (s.eval e.line e.more).warning e.lines := by
  have hpre : e.more.take (s.eval e.line e.more).asked <+: e.more ++ rest := by
    rw [hasked, List.take_length]
    exact List.prefix_append e.more rest
  have heval := Session.eval_eq_of_asked hasked.le hpre
  refine ⟨heval, ?_⟩
  rw [Repl.stepLog, heval, Session.log_eq_of_asked hasked.le hpre, hasked, List.take_left]
  rfl

/-- **The run is the session.** Along a cut, it shows and logs what the steps on the groups do and
ends in the session that they lead to, whether or not a line that is no text follows. -/
theorem runsAlong (config : Config) (isBroken : Bool) (h : Reads s lines groups unread) :
    RunsAlong (Repl.run config isBroken s lines) isBroken s groups := by
  induction h with
  | finished s =>
    rw [Repl.run]
    exact ⟨Transcript.shown_prompts config 0, rfl, rfl, rfl⟩
  | @abandoned s e hasked hresult =>
    have hends := Step.not_ends_of_nothing hresult
    have hstop := (Step.stop_of_not_ends hends isBroken).symm
    have hevents := Repl.shown_stepEvents config s e.line e.more
    have hlog : Repl.stepLog s e.line e.more = s.logs [e] := by
      rw [Repl.stepLog, List.take_of_length_le (by omega)]
      exact (List.append_nil _).symm
    cases isBroken with
    | true =>
      rw [Entry.lines, Repl.run_broken (by omega)]
      exact ⟨hevents.trans (List.append_nil _).symm, hlog, rfl, hstop⟩
    | false =>
      -- the run goes on after the command that was dropped, and finds no line
      rw [Entry.lines, Repl.run_next (by simp) hends, List.drop_eq_nil_of_le (by omega), Repl.run]
      refine ⟨?_, (List.append_nil _).trans hlog, rfl, hstop⟩
      show Transcript.shown (_ ++ _) = _
      rw [Transcript.shown_append, hevents, Transcript.shown_prompts]
      rfl
  | @ends s e unread hasked hends =>
    obtain ⟨heval, hlog⟩ := eval_append hasked unread
    have hevents := Repl.shown_stepEvents config s e.line (e.more ++ unread)
    rw [heval] at hevents
    rw [Entry.lines, List.cons_append,
      Repl.run_ends (by rw [heval, hasked]; simp) (by rw [heval]; exact hends), heval, hlog]
    exact ⟨hevents.trans (List.append_nil _).symm, (List.append_nil _).symm, rfl, rfl⟩
  | @next s e rest groups unread hasked hends hrest ih =>
    obtain ⟨heval, hlog⟩ := eval_append hasked rest
    have hevents := Repl.shown_stepEvents config s e.line (e.more ++ rest)
    rw [heval] at hevents
    rw [Entry.lines, List.cons_append,
      Repl.run_next (by rw [heval, hasked]; simp) (by rw [heval]; exact hends), heval, hlog, hasked,
      List.drop_left]
    refine ⟨?_, congrArg (_ ++ ·) ih.log, ih.session,
      by rw [Session.stop_cons hends]; exact ih.stop⟩
    show Transcript.shown (_ ++ _) = _
    rw [Transcript.shown_append, hevents, ih.shown]
    rfl

/-! ## What a cut is -/

theorem lines_eq (h : Reads s lines groups unread) :
    lines = groups.flatMap Entry.lines ++ unread := by
  induction h with
  | finished s => rfl
  | abandoned hasked hresult => simp
  | ends unread hasked hends => simp
  | next hasked hends hrest ih => rw [List.flatMap_cons, List.append_assoc, ← ih]

theorem tail {e : Entry} (h : Reads s lines (e :: groups) unread) (hne : groups ≠ []) :
    ∃ rest, Reads (s.eval e.line e.more).session rest groups unread := by
  cases h with
  | abandoned hasked hresult => exact absurd rfl hne
  | ends unread hasked hends => exact absurd rfl hne
  | next hasked hends hrest => exact ⟨_, hrest⟩

/-- After some of the groups, the others are a cut of the lines that are left. -/
theorem of_append {before after : List Entry} (h : Reads s lines (before ++ after) unread)
    (hafter : after ≠ []) : ∃ rest, Reads (s.after before) rest after unread := by
  induction before generalizing s lines with
  | nil => exact ⟨lines, h⟩
  | cons e before ih =>
    obtain ⟨rest, hrest⟩ := h.tail (List.append_ne_nil_of_right_ne_nil before hafter)
    exact ih hrest

theorem ends_of_unread (h : Reads s lines groups unread) (hne : unread ≠ []) :
    ∃ before e, groups = before ++ [e] ∧ ((s.after before).eval e.line e.more).Ends := by
  induction h with
  | finished s => exact absurd rfl hne
  | abandoned hasked hresult => exact absurd rfl hne
  | @ends s e unread hasked hends => exact ⟨[], e, rfl, hends⟩
  | @next s e rest groups unread hasked hends hrest ih =>
    obtain ⟨before, last, hgroups, hlast⟩ := ih hne
    exact ⟨e :: before, last, congrArg (e :: ·) hgroups, hlast⟩

end Reads

/-- `groups` are consecutive groups of `lines`, one for each command that is evaluated, and `unread`
are the lines after them. -/
structure Segmentation (s : Session σ) (lines : List String) (groups : List Entry)
    (unread : List String) : Prop where
  /-- Each line is in one group or unread, and they stand in order. -/
  lines_eq : lines = groups.flatMap Entry.lines ++ unread
  /-- A command, also one that fails, asks for the further lines of its group and for no other. Only
  the last one can ask once more, in vain, when all lines are used up; it is then dropped. -/
  asked : ∀ before e after, groups = before ++ e :: after →
    ((s.after before).eval e.line e.more).asked = e.more.length ∨
      ((s.after before).eval e.line e.more).asked = e.more.length + 1 ∧
        ((s.after before).eval e.line e.more).result = .ok .nothing ∧ after = [] ∧ unread = []
  /-- After `exit` or a fault there is no group. -/
  ends_last : ∀ before e after, groups = before ++ e :: after →
    ((s.after before).eval e.line e.more).Ends → after = []
  /-- Lines are unread only after `exit` or a fault. -/
  ends_of_unread : unread ≠ [] → ∃ before e, groups = before ++ [e] ∧
    ((s.after before).eval e.line e.more).Ends
  /-- A fault comes from a search with a window that does not fit. -/
  overruns : ∀ before e after, groups = before ++ e :: after →
    ∀ fault, ((s.after before).eval e.line e.more).fault? = some fault → (s.after before).Overruns e

theorem Reads.segmentation {s : Session σ} {lines unread : List String} {groups : List Entry}
    (h : Reads s lines groups unread) : Segmentation s lines groups unread where
  lines_eq := h.lines_eq
  asked := by
    rintro before e after rfl
    obtain ⟨rest, h⟩ := h.of_append (List.cons_ne_nil e after)
    cases h with
    | abandoned hasked hresult => exact .inr ⟨hasked, hresult, rfl, rfl⟩
    | ends unread hasked hends => exact .inl hasked
    | next hasked hends hrest => exact .inl hasked
  ends_last := by
    rintro before e after rfl hlast
    obtain ⟨rest, h⟩ := h.of_append (List.cons_ne_nil e after)
    cases h with
    | abandoned hasked hresult => rfl
    | ends unread hasked hends => rfl
    | next hasked hends hrest => exact absurd hlast hends
  ends_of_unread := h.ends_of_unread
  overruns _ _ _ _ _ := Session.overruns_of_fault

/-! ## Runs of the program -/

theorem Input.ofByteLines_of_decode {pieces : List (List UInt8)} {lines : List String}
    (h : pieces.map Text.Utf8.decode? = lines.map some) : ofByteLines pieces = ⟨lines, false⟩ := by
  induction pieces generalizing lines with
  | nil =>
    cases lines with
    | nil => rfl
    | cons line lines => cases h
  | cons bytes pieces ih =>
    cases lines with
    | nil => cases h
    | cons line lines =>
      obtain ⟨hline, hlines⟩ := List.cons.inj h
      simp only [ofByteLines, hline, ih hlines]

/-- A run shows, prompts apart, what commands show that are evaluated one after the other from `s`
on. It ends well unless the last of them is a fault. -/
structure ShowsSession (config : Config) (run : ProgramRun σ) (s : Session σ)
    (groups : List Entry) : Prop where
  status : run.status = if (s.fault? groups).isSome then CommandLine.faultStatus else 0
  /-- Each output with a line feed after it. -/
  output : run.output = String.join ((s.steps groups).map Step.outputText)
  /-- For each command what its programs wrote and, if it failed, why, with a line feed after it.
  Behind all of them stands the report of a fault. -/
  errors : run.errors =
    ((s.steps groups).flatMap fun step => step.errors ++ Text.Utf8.encode step.report) ++
      (s.fault? groups).elim [] fun fault => (System.build σ).report fault.message
  log : run.log = if config.verbose then s.logs groups else []
  session : run.session = s.after groups

theorem Reads.showsSession {s : Session σ} {lines unread : List String} {groups : List Entry}
    (h : Reads s lines groups unread) (config : Config) :
    ShowsSession config (CommandLine.runInput config false s ⟨lines, false⟩) s groups := by
  have hrun := h.runsAlong config false
  have hstop := hrun.stop
  rw [Session.stop_false] at hstop
  refine ⟨?_, Transcript.output_of_shown hrun.shown, ?_, ?_, hrun.session⟩
  · simp only [CommandLine.runInput, hstop]
    cases s.fault? groups <;> rfl
  · simp only [CommandLine.runInput, hstop, Transcript.errors_of_shown hrun.shown]
    cases s.fault? groups <;> rfl
  · simp only [CommandLine.runInput, hrun.log]
    rfl

/-- **A run over an input is a session over groups of its lines.** Whatever the lines, the settings
and the session to start with, the lines can be cut into groups so that the run shows what
evaluating the groups one after the other shows; the reports of the shell itself are those of the
steps. Unless the last step is a fault, the run ends well, and then lines stay unread only after an
`exit`. Bytes whose lines are all text are an input of these lines. -/
theorem runInput_eq_session (config : Config) (s : Session σ) (lines : List String) :
    (∃ groups unread, Segmentation s lines groups unread ∧
      ShowsSession config (CommandLine.runInput config false s ⟨lines, false⟩) s groups ∧
      (Repl.run config false s lines).events.reports =
        String.join ((s.steps groups).map Step.report) ∧
      (s.fault? groups = none →
        (CommandLine.runInput config false s ⟨lines, false⟩).status = 0 ∧
          (unread ≠ [] → s.EndsByExit groups))) ∧
    ∀ bytes, (Text.byteLines bytes).map Text.Utf8.decode? = lines.map some →
      Input.ofBytes bytes = ⟨lines, false⟩ := by
  constructor
  · obtain ⟨groups, unread, h⟩ := exists_reads s lines
    have hshows := h.showsSession config
    refine ⟨groups, unread, h.segmentation, hshows,
      Transcript.reports_of_shown (h.runsAlong config false).shown,
      fun hfault => ⟨?_, fun hne => ?_⟩⟩
    · rw [hshows.status, hfault]
      rfl
    · obtain ⟨before, e, rfl, hends⟩ := h.ends_of_unread hne
      rw [Session.fault?, Session.getLast?_steps_concat, Option.bind_some] at hfault
      exact ⟨_, s.getLast?_steps_concat before e, hends.resolve_right (not_ne_iff.mpr hfault)⟩
  · exact fun bytes h => Input.ofByteLines_of_decode h

/-- A command of two lines, the first with a carriage return at its end, an `exit` and a last line
that has no line feed. -/
theorem runInput_eq_session_four :
    Input.ofBytes (Text.Utf8.encode "echo 'a\r\nb'\nexit\necho c") =
        ⟨["echo 'a", "b'", "exit", "echo c"], false⟩ ∧
      ∃ groups unread,
        Segmentation ({ world := ⟨⟨[]⟩, [], ""⟩ } : Session Sandbox)
          ["echo 'a", "b'", "exit", "echo c"] groups unread ∧
        ShowsSession {} (CommandLine.runInput {} false { world := ⟨⟨[]⟩, [], ""⟩ }
          (.ofBytes (Text.Utf8.encode "echo 'a\r\nb'\nexit\necho c")))
          ({ world := ⟨⟨[]⟩, [], ""⟩ } : Session Sandbox) groups := by
  obtain ⟨⟨groups, unread, hcut, hshows, -⟩, hinput⟩ :=
    runInput_eq_session {} ({ world := ⟨⟨[]⟩, [], ""⟩ } : Session Sandbox)
      ["echo 'a", "b'", "exit", "echo c"]
  have hbytes := hinput (Text.Utf8.encode "echo 'a\r\nb'\nexit\necho c") (by decide +kernel)
  rw [hbytes]
  exact ⟨rfl, groups, unread, hcut, hshows⟩

/-- The run ends with a fault in its first line, and the other one stays unread without an
`exit`. -/
theorem runInput_stops_at_fault :
    let input : Input := ⟨[overrunLine, "echo hi"], false⟩
    (CommandLine.runInput {} false { world := notesSystem } input).status = 101 ∧
      (CommandLine.runInput {} false { world := notesSystem } input).output = "" := by
  intro input
  let step := Session.eval { world := notesSystem } overrunLine ["echo hi"]
  have hfault : step.fault? = some .overflow := by decide +kernel
  have hends : step.Ends := .inr (hfault ▸ Option.some_ne_none _)
  have hrun : Repl.run {} false { world := notesSystem } input.lines = _ :=
    Repl.run_ends (by simp) hends
  constructor
  · rw [CommandLine.runInput, hrun, Step.stop, hfault]
    rfl
  · rw [CommandLine.runInput, hrun]
    decide +kernel

end LineShell
