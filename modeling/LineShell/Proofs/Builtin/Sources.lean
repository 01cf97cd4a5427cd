import LineShell.Proofs.Options.Arguments
import LineShell.Proofs.Session.Scope
import LineShell.Proofs.Text.Utf8
import LineShell.Sandbox

/-!
# Texts from files and texts from pipes

`cat`, `wc` and `grep` take their text from a file if one is named, and from their input otherwise.
So a command that reads a file does the same as one without a file that is fed by `cat`
(`file_read_as_piped`), and does not look at its own input.

1. What the commands do with the arguments `-- file`, with options of `grep` in front: options take
   no operand, or are refused whatever follows them (`takeAll_options`).
2. With a file that holds a text, and with that text for its input, a command has the same source
   (`source_of_readText`).
3. Both ways to run stages, alone on the scope of the session and several in a row, add nothing to
   this (`runPipeline_eq_runStages`).
-/

namespace LineShell

open Options

namespace Builtin

/-! ## Options of `grep` -/

/-- An option of `grep`, in its long or its short form. -/
inductive GrepOption where
  | wholeWords (long : Bool)
  | ignoreCase (long : Bool)
  | afterContext (long : Bool) (value : String)
  deriving DecidableEq, Repr

/-- An option as it is written. -/
def GrepOption.words : GrepOption → List String
  | .wholeWords long => [if long then "--word-regexp" else "-w"]
  | .ignoreCase long => [if long then "--ignore-case" else "-i"]
  | .afterContext long value => [if long then "--after-context" else "-A", value]

/-- Options as they are written one after the other. -/
def optionWords (options : List GrepOption) : List String := options.flatMap GrepOption.words

/-- Nothing but options has been read. -/
structure OptionsOnly (c : Cursor Grep) : Prop where
  isOpen : c.IsOpen
  none_taken : c.taken = 0
  no_file : c.settings.file = none

/-- The words are refused, whatever follows them, or leave everything but options to be read. -/
inductive ReadsOptions (c : Cursor Grep) (words : List String) : Prop where
  | refused (e : Options.Error)
      (h : ∀ rest, Grep.interface.takeAll c (words ++ rest) = .error e)
  | read (c' : Cursor Grep) (hc' : OptionsOnly c')
      (h : ∀ rest, Grep.interface.takeAll c (words ++ rest) = Grep.interface.takeAll c' rest)

section Options

variable {c : Cursor Grep} {arg : String} {flag : Flag Grep}

theorem OptionsOnly.readsOptions_switch {apply : Grep → Grep} (hc : OptionsOnly c)
    (harg : IsFlagWord arg) (hflag : Grep.interface.flags.find? (·.isNamed arg) = some flag)
    (heffect : flag.effect = .switch apply)
    (hfile : (apply c.settings).file = c.settings.file) : ReadsOptions c [arg] :=
  .read { c with settings := apply c.settings }
    ⟨⟨hc.isOpen.not_ended, hc.isOpen.not_helpAsked⟩, hc.none_taken, hfile.trans hc.no_file⟩
    fun rest => Interface.takeAll_switch hc.isOpen harg hflag heffect rest

theorem OptionsOnly.readsOptions_value {apply : String → Grep → Except String Grep} {value : String}
    (hc : OptionsOnly c) (harg : IsFlagWord arg)
    (hflag : Grep.interface.flags.find? (·.isNamed arg) = some flag)
    (heffect : flag.effect = .value apply)
    (hfile : ∀ g, apply value c.settings = .ok g → g.file = c.settings.file) :
    ReadsOptions c [arg, value] := by
  have hread := Interface.takeAll_value hc.isOpen harg hflag heffect value
  cases htake : Interface.takeValue c flag apply arg value with
  | error e =>
    refine .refused e fun rest => ?_
    show Grep.interface.takeAll c (arg :: value :: rest) = _
    rw [hread, htake]
    rfl
  | ok c' =>
    obtain ⟨g, happly, rfl⟩ := Interface.eq_of_takeValue htake
    refine .read { c with settings := g, given := flag.long :: c.given }
      ⟨⟨hc.isOpen.not_ended, hc.isOpen.not_helpAsked⟩, hc.none_taken, ?_⟩ fun rest => ?_
    · exact (hfile g happly).trans hc.no_file
    · show Grep.interface.takeAll c (arg :: value :: rest) = _
      rw [hread, htake]
      rfl

theorem OptionsOnly.readsOptions (hc : OptionsOnly c) (o : GrepOption) :
    ReadsOptions c o.words := by
  cases o with
  | wholeWords long =>
    cases long <;>
      exact hc.readsOptions_switch (by decide) rfl rfl rfl
  | ignoreCase long =>
    cases long <;>
      exact hc.readsOptions_switch (by decide) rfl rfl rfl
  | afterContext long value =>
    cases long
    all_goals
      refine hc.readsOptions_value (by decide) rfl rfl fun g h => ?_
      split at h
      · cases h
        rfl
      · cases h

/-- **Options are read one after the other**, by induction on how many there are. -/
theorem takeAll_options (hc : OptionsOnly c) (options : List GrepOption) :
    ReadsOptions c (optionWords options) := by
  induction options generalizing c with
  | nil => exact .read c hc fun rest => rfl
  | cons o options ih =>
    have happend (rest : List String) :
        optionWords (o :: options) ++ rest = o.words ++ (optionWords options ++ rest) := by
      rw [optionWords, List.flatMap_cons, List.append_assoc]
      rfl
    cases hc.readsOptions o with
    | refused e h => exact .refused e fun rest => by rw [happend, h]
    | read c' hc' h =>
      cases ih hc' with
      | refused e h' => exact .refused e fun rest => by rw [happend, h, h']
      | read c'' hc'' h' => exact .read c'' hc'' fun rest => by rw [happend, h, h']

/-- A pattern after `--` leaves the file open, and a word after the pattern names it. -/
inductive ReadsPattern (options : List GrepOption) (pattern : String) : Prop where
  | refused (e : Options.Error)
      (h : ∀ operands, Grep.interface.read {} (optionWords options ++ operands) = .error e)
  | read (g : Grep) (hg : g.file = none)
      (hinput : Grep.interface.read {} (optionWords options ++ ["--", pattern]) =
        .ok (.settings g))
      (hfile : ∀ file, Grep.interface.read {} (optionWords options ++ ["--", pattern, file]) =
        .ok (.settings { g with file := some file }))

theorem OptionsOnly.takeAll_operands (hc : OptionsOnly c) (pattern : String)
    (rest : List String) :
    Grep.interface.takeAll c ("--" :: pattern :: rest) =
      Grep.interface.takeAll
        { c with settings := { c.settings with pattern }, ended := true, taken := 1 } rest := by
  have htake : Grep.interface.takeOperand { c with ended := true } pattern =
      .ok { c with settings := { c.settings with pattern }, ended := true, taken := 1 } := by
    unfold Interface.takeOperand
    simp only [Grep.interface, hc.none_taken]
    rfl
  rw [Interface.takeAll_dashes hc.isOpen.not_ended, Interface.takeAll_operand rfl, htake]
  rfl

/-- Options, a pattern and perhaps a file are read, whatever the two operands look like. -/
theorem OptionsOnly.read_operands {words : List String} (hc : OptionsOnly c)
    (h : ∀ rest, Grep.interface.takeAll { settings := {} } (words ++ rest) =
      Grep.interface.takeAll c rest) (pattern : String) :
    Grep.interface.read {} (words ++ ["--", pattern]) =
        .ok (.settings { c.settings with pattern }) ∧
      ∀ file, Grep.interface.read {} (words ++ ["--", pattern, file]) =
        .ok (.settings { c.settings with pattern, file := some file }) := by
  have hhelp : c.helpAsked = false := hc.isOpen.not_helpAsked
  constructor
  · rw [Interface.read, h, hc.takeAll_operands, Interface.takeAll_nil]
    simp only [hhelp]
    rfl
  · intro file
    rw [Interface.read, h, hc.takeAll_operands, Interface.takeAll_operand rfl]
    simp only [Interface.takeOperand, Grep.interface, Interface.takeAll_nil, hhelp]
    rfl

theorem readsPattern (options : List GrepOption) (pattern : String) :
    ReadsPattern options pattern := by
  have hstart : OptionsOnly { settings := ({} : Grep) } := ⟨⟨rfl, rfl⟩, rfl, rfl⟩
  cases takeAll_options hstart options with
  | refused e h => exact .refused e fun operands => by rw [Interface.read, h]
  | read c hc h =>
    obtain ⟨hinput, hfile⟩ := hc.read_operands h pattern
    exact .read { c.settings with pattern } hc.no_file hinput hfile

end Options

/-! ## Sources -/

section Sources

variable {σ : Type} [System σ] {world : σ} {file text : String}

theorem source_of_readText (command : String) (h : readText world file = some text)
    (input : Option String) :
    source command world (some file) input = source command world none (some text) := by
  simp only [source, h]

theorem readText_of_encode (h : System.readFile world file = some (Text.Utf8.encode text)) :
    readText world file = some text := by
  rw [readText, h, Option.bind_some, Text.Utf8.decode?_encode]

theorem cat_file (world : σ) (file : String) (input : Option String) :
    cat world ["--", file] input = source "cat" world (some file) input := rfl

theorem wc_file (world : σ) (file : String) (input : Option String) :
    wc world ["--", file] input =
      (source "wc" world (some file) input).map fun text => showCounts (counts text) := rfl

theorem wc_input (world : σ) (input : Option String) :
    wc world [] input =
      (source "wc" world none input).map fun text => showCounts (counts text) := rfl

theorem execute_of_readText {g : Grep} (h : readText world file = some text)
    (hg : g.file = none) (input : Option String) :
    Grep.execute world input { g with file := some file } =
      Grep.execute world (some text) g := by
  have hpattern : Grep.fullPattern { g with file := some file } = g.fullPattern := rfl
  unfold Grep.execute
  rw [hpattern]
  simp only [source_of_readText "grep" h input, hg]

theorem grep_of_readText (h : readText world file = some text) (options : List GrepOption)
    (pattern : String) (input : Option String) :
    grep world (optionWords options ++ ["--", pattern, file]) input =
      grep world (optionWords options ++ ["--", pattern]) (some text) := by
  unfold grep run
  cases readsPattern options pattern with
  | refused e he => rw [he, he]
  | read g hg hinput hfile =>
    rw [hinput, hfile]
    exact execute_of_readText h hg input

end Sources

/-! ## Commands -/

def catFile (file : String) : Command := ⟨.cat, ["--", file]⟩

def wcFile (file : String) : Command := ⟨.wc, ["--", file]⟩

def wcInput : Command := ⟨.wc, []⟩

def grepFile (options : List GrepOption) (pattern file : String) : Command :=
  ⟨.grep, optionWords options ++ ["--", pattern, file]⟩

def grepInput (options : List GrepOption) (pattern : String) : Command :=
  ⟨.grep, optionWords options ++ ["--", pattern]⟩

/-- The arguments of the command name a file to read. -/
inductive NamesFile (file : String) : Command → Prop where
  | cat (args : List String) (h : catInterface.read none args = .ok (.settings (some file))) :
      NamesFile file ⟨.cat, args⟩
  | wc (args : List String) (h : wcInterface.read none args = .ok (.settings (some file))) :
      NamesFile file ⟨.wc, args⟩
  | grep (args : List String) (g : Grep) (hg : g.file = some file)
      (h : Grep.interface.read {} args = .ok (.settings g)) : NamesFile file ⟨.grep, args⟩

theorem namesFile_catFile (file : String) : NamesFile file (catFile file) := .cat _ rfl

theorem namesFile_wcFile (file : String) : NamesFile file (wcFile file) := .wc _ rfl

section Commands

variable {σ : Type} [System σ] {world : σ} {file text : String} {c reader fed : Command}

/-- What the command does does not depend on its input. -/
def IgnoresInput (world : σ) (c : Command) : Prop :=
  ∀ scope input input', c.run input scope world = c.run input' scope world

theorem NamesFile.ignoresInput (h : NamesFile file c) (world : σ) : IgnoresInput world c := by
  intro scope input input'
  cases h with
  | cat args h =>
    simp only [Command.run, Builtin.cat, Builtin.run, h]
    rfl
  | wc args h =>
    simp only [Command.run, Builtin.wc, Builtin.run, h]
    rfl
  | grep args g hg h =>
    simp only [Command.run, Builtin.grep, Builtin.run, h, Grep.execute, hg]
    rfl

/-- Options that are refused are refused before the text is looked for. -/
theorem ignoresInput_grepFile (world : σ) (options : List GrepOption) (pattern file : String) :
    IgnoresInput world (grepFile options pattern file) := by
  cases readsPattern options pattern with
  | refused e h =>
    intro scope input input'
    simp only [Command.run, grepFile, Builtin.grep, Builtin.run, h]
  | read g _ _ hfile =>
    exact (NamesFile.grep _ { g with file := some file } rfl (hfile file)).ignoresInput world

/-- The stage `reader` does what `fed` does after `cat` has read the file, whatever input the first
stage has, and so does a line of a session that consists of it. -/
structure ReadsAsPiped (world : σ) (file : String) (reader fed : Command) : Prop where
  stages : ∀ input, runStages input world [reader] = runStages input world [catFile file, fed]
  session : ∀ scope, ({ scope, world } : Session σ).runPipeline [reader] =
    ({ scope, world } : Session σ).runPipeline [catFile file, fed]

theorem run_catFile (h : readText world file = some text) (input : Option String)
    (scope : Scope) :
    (catFile file).run input scope world = { result := .ok text, scope, world } := by
  have hsource : source "cat" world (some file) input = .ok text := by
    rw [source_of_readText "cat" h]
    rfl
  show StageResult.mk (cat world ["--", file] input) scope world [] = _
  rw [cat_file, hsource]

/-- Since `cat` leaves the system as it is, both ways to run stages reduce to what `reader` and
`fed` do in an empty scope. -/
theorem ReadsAsPiped.of_run (h : readText world file = some text) (hexit : reader.kind ≠ .exit)
    (hbinding : reader.binding? = none)
    (hrun : ∀ input, reader.run input .empty world = fed.run (some text) .empty world) :
    ReadsAsPiped world file reader fed := by
  have hstages (input : Option String) :
      runStages input world [reader] = runStages input world [catFile file, fed] := by
    have hcat := run_catFile h input .empty
    have hresult : ((catFile file).run input .empty world).result = .ok text := by rw [hcat]
    rw [runStages_cons_of_ok hresult, hcat, runStages_singleton, runStages_singleton, hrun input]
    rfl
  refine ⟨hstages, fun scope => ?_⟩
  rw [Session.runPipeline_eq_runStages _ hexit hbinding, Session.runPipeline_many, hstages]

theorem readsAsPiped_wc (h : readText world file = some text) :
    ReadsAsPiped world file (wcFile file) wcInput := by
  refine .of_run h Kind.noConfusion rfl fun input => ?_
  show StageResult.mk (wc world ["--", file] input) .empty world [] =
    StageResult.mk (wc world [] (some text)) .empty world []
  rw [wc_file, wc_input, source_of_readText "wc" h]

theorem readsAsPiped_grep (h : readText world file = some text) (options : List GrepOption)
    (pattern : String) :
    ReadsAsPiped world file (grepFile options pattern file) (grepInput options pattern) := by
  refine .of_run h Kind.noConfusion rfl fun input => ?_
  show StageResult.mk (grep world (optionWords options ++ ["--", pattern, file]) input) .empty
      world [] =
    StageResult.mk (grep world (optionWords options ++ ["--", pattern]) (some text)) .empty
      world []
  rw [grep_of_readText h]

/-- **A file and a pipe are the same source.** A command that names a file ignores its input. If the
file holds a text, then `cat` puts it out, and `wc` and `grep` do with the file what they do with
the output of `cat`, faults of options and patterns included. -/
theorem file_read_as_piped (world : σ) (file : String) :
    (∀ c, NamesFile file c → IgnoresInput world c) ∧
      IgnoresInput world (catFile file) ∧ IgnoresInput world (wcFile file) ∧
      (∀ options pattern, IgnoresInput world (grepFile options pattern file)) ∧
      ∀ text, System.readFile world file = some (Text.Utf8.encode text) →
        (∀ input scope, ((catFile file).run input scope world).result = .ok text) ∧
        ReadsAsPiped world file (wcFile file) wcInput ∧
        ∀ options pattern,
          ReadsAsPiped world file (grepFile options pattern file) (grepInput options pattern) := by
  refine ⟨fun c hc => hc.ignoresInput world, (namesFile_catFile file).ignoresInput world,
    (namesFile_wcFile file).ignoresInput world,
    fun options pattern => ignoresInput_grepFile world options pattern file,
    fun text hread => ?_⟩
  have h := readText_of_encode hread
  refine ⟨fun input scope => ?_, readsAsPiped_wc h, readsAsPiped_grep h⟩
  rw [run_catFile h]

/-- A file whose last line has no line feed, with a carriage return and a null character: one search
that finds lines in two groups, and one whose pattern is not valid. -/
theorem file_read_as_piped_notes :
    let notes : Sandbox :=
      .ofEntries ["home"] "" [("notes", .file (Text.Utf8.encode "Ab\r\n\x00\n\nab") false)]
    let options : List GrepOption := [.ignoreCase false, .afterContext true "1"]
    System.readFile notes "notes" = some (Text.Utf8.encode "Ab\r\n\x00\n\nab") ∧
      (runStages none notes [catFile "notes", grepInput options "AB"]).1 =
        .ok "Ab\n\x00\n--\nab" ∧
      (runStages (some "ab") notes [catFile "notes", grepInput options "("]).1 =
        .error (.invalidPattern "(") := by
  intro notes options
  have hread : System.readFile notes "notes" = some (Text.Utf8.encode "Ab\r\n\x00\n\nab") := by
    decide +kernel
  obtain ⟨-, -, hgrep⟩ := (file_read_as_piped notes "notes").2.2.2.2 _ hread
  refine ⟨hread, ?_, ?_⟩
  · rw [← (hgrep options "AB").stages]
    decide +kernel
  · rw [← (hgrep options "(").stages]
    decide +kernel

end Commands

end Builtin

end LineShell
