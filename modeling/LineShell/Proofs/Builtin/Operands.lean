import LineShell.Proofs.Builtin.Sources
import LineShell.Proofs.Builtin.WholeWords

/-!
# A single word

`cat` and `wc` take a single word for the name of a file, and `grep` takes it for a pattern. Words
that begin with a dash are left to the flags, and of all the others one is reserved: `help` asks for
the usage text. So each of the three commands works on every single word without a dash but this one
(`takesWord_iff`).

All three read their arguments against an interface whose first operand is the only one that can be
required, so one lemma tells what they do with a word (`run_word`).
-/

namespace LineShell.Builtin

open Options

section Words

variable {α : Type} {word : String}

theorem run_word {interface : Interface α} {operand : Operand α}
    (h : interface.FirstOperand operand) (hdash : word.toList.head? ≠ some '-') (defaults : α)
    (execute : α → Except CommandError String) :
    run interface defaults [word] execute =
      if word = "help" then .ok (Text.trimEnd interface.usage)
      else execute (operand.store word defaults) := by
  rw [run, h.read hdash]
  by_cases hhelp : word = "help"
  · rw [if_pos hhelp, if_pos hhelp]
  · rw [if_neg hhelp, if_neg hhelp]

theorem firstOperand_file (about : String) {interface : Interface (Option String)}
    (h : interface.operands = .each [fileOperand about]) :
    interface.FirstOperand (fileOperand about) :=
  ⟨[], h, by simp⟩

theorem firstOperand_pattern : ∃ operand, Grep.interface.FirstOperand operand ∧
    ∀ text g, operand.store text g = { g with pattern := text } :=
  ⟨_, ⟨_, rfl, by simp⟩, fun _ _ => rfl⟩

variable {σ : Type} [System σ]

theorem cat_word (hdash : word.toList.head? ≠ some '-') (world : σ) (input : Option String) :
    cat world [word] input =
      if word = "help" then .ok (Text.trimEnd catInterface.usage)
      else source "cat" world (some word) input :=
  run_word (firstOperand_file _ rfl) hdash none _

theorem wc_word (hdash : word.toList.head? ≠ some '-') (world : σ) (input : Option String) :
    wc world [word] input =
      if word = "help" then .ok (Text.trimEnd wcInterface.usage)
      else (source "wc" world (some word) input).map fun text => showCounts (counts text) :=
  run_word (firstOperand_file _ rfl) hdash none _

theorem grep_word (hdash : word.toList.head? ≠ some '-') (world : σ) (input : Option String) :
    grep world [word] input =
      if word = "help" then .ok (Text.trimEnd Grep.interface.usage)
      else Grep.execute world input { pattern := word } := by
  obtain ⟨operand, hfirst, hstore⟩ := firstOperand_pattern
  rw [grep, run_word hfirst hdash, hstore]

end Words

/-! ## Usage texts -/

theorem exists_usage_eq {α : Type} (interface : Interface α) :
    ∃ rest, interface.usage = "Usage:" ++ rest := by
  unfold Interface.usage Text.unwords
  simp only [List.cons_append, String.intercalate_cons_cons, List.map_cons, String.join_cons,
    String.append_assoc]
  exact ⟨_, rfl⟩

/-- By its first character, a usage text can be told from others. -/
theorem head?_trimEnd_usage {α : Type} (interface : Interface α) :
    (Text.trimEnd interface.usage).toList.head? = some 'U' := by
  obtain ⟨rest, hrest⟩ := exists_usage_eq interface
  rw [Text.trimEnd, String.toList_ofList, hrest, String.toList_append]
  exact Text.head?_dropBlankEnd (by decide) _

/-! ## The three commands -/

/-- The word is what each of the three commands works on, whatever else there is. -/
structure TakesWord (word : String) : Prop where
  /-- `cat` prints the file of that name. -/
  cat : ∀ {σ : Type} [System σ] (world : σ) (text : String) (input : Option String)
    (scope : Scope), readText world word = some text →
      (Command.mk .cat [word]).run input scope world = { result := .ok text, scope, world }
  /-- `wc` counts the file of that name. -/
  wc : ∀ {σ : Type} [System σ] (world : σ) (text : String) (input : Option String)
    (scope : Scope), readText world word = some text →
      (Command.mk .wc [word]).run input scope world =
        { result := .ok (showCounts (counts text)), scope, world }
  /-- `grep` prints the lines of its input that match the word. -/
  grep : ∀ {σ : Type} [System σ] (world : σ) (text : String) (scope : Scope)
    (isMatch : String → Bool), (System.build σ).compile false word = some isMatch →
      (Command.mk .grep [word]).run (some text) scope world =
        { result := .ok (Text.unlines ((Text.lines text).filter isMatch)), scope, world }

/-- The word makes each of the three commands tell how it is used, whatever else there is. -/
structure AsksUsage (word : String) : Prop where
  cat : ∀ {σ : Type} [System σ] (world : σ) (input : Option String) (scope : Scope),
    (Command.mk .cat [word]).run input scope world =
      { result := .ok (Text.trimEnd catInterface.usage), scope, world }
  wc : ∀ {σ : Type} [System σ] (world : σ) (input : Option String) (scope : Scope),
    (Command.mk .wc [word]).run input scope world =
      { result := .ok (Text.trimEnd wcInterface.usage), scope, world }
  grep : ∀ {σ : Type} [System σ] (world : σ) (input : Option String) (scope : Scope),
    (Command.mk .grep [word]).run input scope world =
      { result := .ok (Text.trimEnd Grep.interface.usage), scope, world }

section Commands

variable {word : String}

theorem takesWord (hdash : word.toList.head? ≠ some '-') (hhelp : word ≠ "help") :
    TakesWord word where
  cat world text input scope h := by
    simp only [Command.run, cat_word hdash, if_neg hhelp, source_of_readText "cat" h]
    rfl
  wc world text input scope h := by
    simp only [Command.run, wc_word hdash, if_neg hhelp, source_of_readText "wc" h]
    rfl
  grep world text scope isMatch h := by
    have hlines : Grep.execute world (some text) { pattern := word } =
        .ok (Text.unlines ((Text.lines text).filter isMatch)) := by
      have hselected : Grep.selected? (System.build _) { pattern := word } text =
          some ((Text.lines text).filter isMatch) :=
        Option.map_eq_some_iff.mpr ⟨isMatch, h, rfl⟩
      rw [Grep.execute_eq_selected? rfl rfl, hselected]
      rfl
    simp only [Command.run, grep_word hdash, if_neg hhelp, hlines]

theorem head?_help : "help".toList.head? ≠ some '-' := by decide

theorem asksUsage_help : AsksUsage "help" where
  cat world input scope := by simp only [Command.run, cat_word head?_help, if_true]
  wc world input scope := by simp only [Command.run, wc_word head?_help, if_true]
  grep world input scope := by simp only [Command.run, grep_word head?_help, if_true]

/-- A system whose working directory holds one file with the text `kitty`. -/
def kittySystem (file : String) : Sandbox :=
  .ofEntries ["home"] "" [(file, .file (Text.Utf8.encode "kitty") false)]

theorem usage_ne_kitty : Text.trimEnd catInterface.usage ≠ "kitty" := by
  intro h
  have hhead := head?_trimEnd_usage catInterface
  rw [h] at hhead
  exact absurd hhead (by decide)

theorem not_takesWord_help : ¬TakesWord "help" := by
  intro h
  have htaken := h.cat (kittySystem "help") "kitty" none .empty (by decide +kernel)
  rw [asksUsage_help.cat] at htaken
  exact usage_ne_kitty (Except.ok.inj (congrArg StageResult.result htaken))

end Commands

/-- **When a single word is an operand.** Of a word that does not begin with a dash, `cat` prints
the file, `wc` counts the file and `grep` finds the lines that match it, for every system, input and
scope, exactly if the word is not `help`. With that word all three tell how they are used, whatever
files there are. -/
theorem takesWord_iff {word : String} (hdash : word.toList.head? ≠ some '-') :
    (TakesWord word ↔ word ≠ "help") ∧ AsksUsage "help" := by
  refine ⟨⟨?_, takesWord hdash⟩, asksUsage_help⟩
  rintro h rfl
  exact not_takesWord_help h

/-- A word that is close to the reserved one. -/
theorem takesWord_iff_capital :
    TakesWord "Help" ∧
      (Command.mk .cat ["Help"]).run (some "piped") .empty (kittySystem "Help") =
        { result := .ok "kitty", scope := .empty, world := kittySystem "Help" } := by
  have htakes : TakesWord "Help" := (takesWord_iff (by decide)).1.mpr (by decide)
  exact ⟨htakes, htakes.cat _ _ _ _ (by decide +kernel)⟩

/-- A file `help` with a text is not printed, and lines with the text `help` are not found. -/
theorem help_not_taken :
    readText (kittySystem "help") "help" = some "kitty" ∧
      cat (kittySystem "help") ["help"] none = .ok (Text.trimEnd catInterface.usage) ∧
      cat (kittySystem "help") ["help"] none ≠ .ok "kitty" ∧
      ((System.build Sandbox).compile false "help").isSome = true ∧
      grep (kittySystem "help") ["help"] (some "help me") =
        .ok (Text.trimEnd Grep.interface.usage) ∧
      ¬TakesWord "help" := by
  have hcat : cat (kittySystem "help") ["help"] none = .ok (Text.trimEnd catInterface.usage) := rfl
  refine ⟨by decide +kernel, hcat, ?_, by decide +kernel, rfl, not_takesWord_help⟩
  rw [hcat]
  exact fun h => usage_ne_kitty (Except.ok.inj h)

end LineShell.Builtin
