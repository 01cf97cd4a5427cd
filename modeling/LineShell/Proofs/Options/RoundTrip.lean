import LineShell.Config
import LineShell.Proofs.Builtin.Sources
import LineShell.Proofs.Options.Groups

/-!
# Settings written as arguments

The settings of `grep` and those of the shell can be written as arguments, one group for each, and
are read back (`settings_round_trip`): in any order and in either form, and whatever the texts look
like, since a value is taken where a value is due and an operand where the flags have ended.
-/

namespace LineShell

open Options

namespace Builtin

/-! ## Settings of `grep` -/

/-- The options that settings are written with, in their long or their short forms. -/
def Grep.options (g : Grep) (longWords longCase longContext : Bool) : List GrepOption :=
  (if g.wholeWords then [.wholeWords longWords] else []) ++
    (if g.ignoreCase then [.ignoreCase longCase] else []) ++
    [.afterContext longContext (toString g.afterContext)]

/-- The pattern and the file, if there is one. -/
def Grep.operandWords (g : Grep) : List String := g.pattern :: g.file.toList

/-- The option as a group, if the number that it may have is `n`. -/
def GrepOption.group (n : Nat) (o : GrepOption) : WordGroup Grep where
  words := o.words
  apply := match o with
    | .wholeWords _ => fun g => { g with wholeWords := true }
    | .ignoreCase _ => fun g => { g with ignoreCase := true }
    | .afterContext .. => fun g => { g with afterContext := n }
  once := match o with
    | .afterContext .. => some "after-context"
    | _ => none

theorem groupWords_map_group (n : Nat) (options : List GrepOption) :
    groupWords (options.map (GrepOption.group n)) = optionWords options := by
  rw [groupWords, List.flatMap_map]
  rfl

theorem reads_switches (n : Nat) (long : Bool) :
    Grep.interface.Reads (GrepOption.group n (.wholeWords long)) ∧
      Grep.interface.Reads (GrepOption.group n (.ignoreCase long)) := by
  cases long
  all_goals
    exact ⟨.switch rfl (by decide) rfl rfl rfl, .switch rfl (by decide) rfl rfl rfl⟩

theorem reads_afterContext {n : Nat} (h : n < Text.numberBound) (long : Bool) :
    Grep.interface.Reads (GrepOption.group n (.afterContext long (toString n))) := by
  cases long
  all_goals
    refine .value rfl (by decide) rfl rfl rfl fun settings => ?_
    simp only [Text.readNumber_toString h]
    rfl

theorem compatible_options {g : Grep} (h : g.afterContext < Text.numberBound)
    (longWords longCase longContext : Bool) :
    Grep.interface.Compatible
      ((g.options longWords longCase longContext).map (GrepOption.group g.afterContext)) where
  reads := by
    intro group hgroup
    obtain ⟨o, ho, rfl⟩ := List.mem_map.mp hgroup
    simp only [Grep.options, List.mem_append, List.mem_ite_nil_right, List.mem_singleton] at ho
    rcases ho with (⟨-, rfl⟩ | ⟨-, rfl⟩) | rfl
    · exact (reads_switches _ longWords).1
    · exact (reads_switches _ longCase).2
    · exact reads_afterContext h longContext
  once := by
    unfold Grep.options
    cases g.wholeWords <;> cases g.ignoreCase <;> exact List.nodup_singleton _
  commute := by
    intro group hgroup group' hgroup' settings
    obtain ⟨o, -, rfl⟩ := List.mem_map.mp hgroup
    obtain ⟨o', -, rfl⟩ := List.mem_map.mp hgroup'
    cases o <;> cases o' <;> rfl

theorem applyGroups_options (g : Grep) (longWords longCase longContext : Bool) :
    applyGroups ((g.options longWords longCase longContext).map (GrepOption.group g.afterContext))
      {} = { g with pattern := "", file := none } := by
  obtain ⟨pattern, file, wholeWords, ignoreCase, afterContext⟩ := g
  cases wholeWords <;> cases ignoreCase <;> rfl

theorem read_grep {g : Grep} (h : g.afterContext < Text.numberBound)
    {longWords longCase longContext : Bool} {options : List GrepOption}
    (hperm : options.Perm (g.options longWords longCase longContext)) :
    Grep.interface.read {} (optionWords options ++ "--" :: g.operandWords) =
      .ok (.settings g) := by
  obtain ⟨c, hopen, htaken, hsettings, hread⟩ :=
    Interface.takeAll_of_perm (compatible_options h longWords longCase longContext)
      (hperm.map (GrepOption.group g.afterContext)) ({} : Grep)
  rw [groupWords_map_group] at hread
  rw [applyGroups_options] at hsettings
  have honly : OptionsOnly c := ⟨hopen, htaken, by rw [hsettings]⟩
  obtain ⟨hinput, hfile⟩ := honly.read_operands hread g.pattern
  rw [hsettings] at hinput hfile
  obtain ⟨pattern, file, wholeWords, ignoreCase, afterContext⟩ := g
  cases file with
  | none => exact hinput
  | some file => exact hfile file

end Builtin

namespace Config

/-! ## Settings of the shell -/

/-- An option of the shell. Two of them have a short form too. -/
inductive ShellOption where
  | prompt (text : String)
  | continuationPrompt (text : String)
  | command (long : Bool) (line : String)
  | verbose (long : Bool)
  deriving DecidableEq, Repr

namespace ShellOption

/-- An option as it is written. -/
def words : ShellOption → List String
  | prompt text => ["--prompt", text]
  | continuationPrompt text => ["--continuation-prompt", text]
  | command long line => [if long then "--command" else "-c", line]
  | verbose long => [if long then "--verbose" else "-v"]

def group (o : ShellOption) : WordGroup Config where
  words := o.words
  apply := match o with
    | prompt text => fun c => { c with prompt := text }
    | continuationPrompt text => fun c => { c with continuationPrompt := text }
    | command _ line => fun c => { c with command := some line }
    | verbose _ => fun c => { c with verbose := true }
  once := match o with
    | prompt _ => some "prompt"
    | continuationPrompt _ => some "continuation-prompt"
    | command .. => some "command"
    | verbose _ => none

theorem reads_group (o : ShellOption) : Config.interface.Reads o.group := by
  cases o with
  | prompt text => exact .value rfl (by decide) rfl rfl rfl fun _ => rfl
  | continuationPrompt text => exact .value rfl (by decide) rfl rfl rfl fun _ => rfl
  | command long line => cases long <;> exact .value rfl (by decide) rfl rfl rfl fun _ => rfl
  | verbose long => cases long <;> exact .switch rfl (by decide) rfl rfl rfl

/-- The option says what the settings are. -/
def Fits (c : Config) : ShellOption → Prop
  | prompt text => c.prompt = text
  | continuationPrompt text => c.continuationPrompt = text
  | command _ line => c.command = some line
  | verbose _ => c.verbose = true

/-- Options that say what the same settings are do not get in each other's way. -/
theorem Fits.commute {c : Config} {o o' : ShellOption} (h : o.Fits c) (h' : o'.Fits c)
    (settings : Config) :
    o'.group.apply (o.group.apply settings) = o.group.apply (o'.group.apply settings) := by
  cases o <;> cases o' <;> simp_all [Fits, group]

end ShellOption

/-- The options that settings are written with. -/
def options (c : Config) (longCommand longVerbose : Bool) : List ShellOption :=
  [.prompt c.prompt, .continuationPrompt c.continuationPrompt] ++
    (c.command.map (ShellOption.command longCommand)).toList ++
    (if c.verbose then [.verbose longVerbose] else [])

/-- Options as they are written one after the other. -/
def optionWords (options : List ShellOption) : List String := options.flatMap ShellOption.words

section Reading

variable {c : Config} {longCommand longVerbose : Bool}

theorem fits_of_mem_options {o : ShellOption} (h : o ∈ c.options longCommand longVerbose) :
    o.Fits c := by
  simp only [options, List.mem_append, List.mem_cons, List.not_mem_nil, or_false,
    Option.mem_toList, Option.map_eq_some_iff, List.mem_ite_nil_right] at h
  rcases h with ((rfl | rfl) | ⟨line, hline, rfl⟩) | ⟨hverbose, rfl⟩
  · rfl
  · rfl
  · exact hline
  · exact hverbose

theorem compatible_options : Config.interface.Compatible
    ((c.options longCommand longVerbose).map ShellOption.group) where
  reads := by
    intro group hgroup
    obtain ⟨o, -, rfl⟩ := List.mem_map.mp hgroup
    exact o.reads_group
  once := by
    unfold options
    cases c.command <;> cases c.verbose <;> simp [ShellOption.group]
  commute := by
    intro group hgroup group' hgroup' settings
    obtain ⟨o, ho, rfl⟩ := List.mem_map.mp hgroup
    obtain ⟨o', ho', rfl⟩ := List.mem_map.mp hgroup'
    exact (fits_of_mem_options ho).commute (fits_of_mem_options ho') settings

theorem applyGroups_options :
    applyGroups ((c.options longCommand longVerbose).map ShellOption.group) {} = c := by
  obtain ⟨prompt, continuationPrompt, command, verbose⟩ := c
  cases command <;> cases verbose <;> rfl

theorem ofArgs_options {given : List ShellOption}
    (hperm : given.Perm (c.options longCommand longVerbose)) :
    Config.ofArgs (optionWords given) = .ok (.settings c) := by
  obtain ⟨cursor, hopen, htaken, hsettings, hread⟩ :=
    Interface.takeAll_of_perm compatible_options (hperm.map ShellOption.group) ({} : Config)
  have hwords : groupWords (given.map ShellOption.group) ++ [] = optionWords given := by
    rw [List.append_nil, groupWords, List.flatMap_map]
    rfl
  have hall := hread []
  rw [hwords, Interface.takeAll_nil] at hall
  rw [applyGroups_options] at hsettings
  unfold Config.ofArgs Interface.read
  rw [hall]
  simp only [hopen.not_helpAsked, htaken, hsettings, Bool.false_eq_true, if_false]
  rfl

end Reading

end Config

/-- **Arguments are read back.** Any settings of `grep` with a number of 64 bits, written as their
options in any order and in either form, then `--`, the pattern and the file if there is one, are
read as these settings; and so are any settings of the shell, written as their options in any order
and in either form. The texts may look like options, requests for help or the end of the flags. -/
theorem settings_round_trip :
    (∀ g : Builtin.Grep, g.afterContext < Text.numberBound →
      ∀ longWords longCase longContext options,
        options.Perm (g.options longWords longCase longContext) →
        Builtin.Grep.interface.read {} (Builtin.optionWords options ++ "--" :: g.operandWords) =
          .ok (.settings g)) ∧
    ∀ (c : Config) (longCommand longVerbose : Bool) (options : List Config.ShellOption),
      options.Perm (c.options longCommand longVerbose) →
      Config.ofArgs (Config.optionWords options) = .ok (.settings c) :=
  ⟨fun _ h _ _ _ _ hperm => Builtin.read_grep h hperm, fun _ _ _ _ hperm =>
    Config.ofArgs_options hperm⟩

/-- The greatest number, and texts that would mean something else where flags may come. -/
theorem settings_round_trip_reserved :
    Builtin.Grep.interface.read {}
        ["-A", "18446744073709551615", "--word-regexp", "--", "--help", "-i"] =
        .ok (.settings ⟨"--help", some "-i", true, false, 18446744073709551615⟩) ∧
      Config.ofArgs ["-v", "-c", "--prompt", "--continuation-prompt", "help", "--prompt", "--"] =
        .ok (.settings ⟨"--", "help", some "--prompt", true⟩) := by
  obtain ⟨hgrep, hshell⟩ := settings_round_trip
  constructor
  · exact hgrep ⟨"--help", some "-i", true, false, 18446744073709551615⟩ (by decide) true true false
      [.afterContext false "18446744073709551615", .wholeWords true] (by decide)
  · exact hshell ⟨"--", "help", some "--prompt", true⟩ false false
      [.verbose false, .command false "--prompt", .continuationPrompt "help", .prompt "--"]
      (by decide)

end LineShell
