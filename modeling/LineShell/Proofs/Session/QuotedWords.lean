import LineShell.Proofs.Expansion.Quotation
import LineShell.Proofs.Pipeline.Stages
import LineShell.Proofs.Session.Eval
import LineShell.Proofs.Stage.Bars
import Mathlib.Data.List.Forall2

/-!
# Quoted words as arguments

Words that are quoted reach the scanner's output unchanged (`gather_echoLine`), but with their
quotes the mark that they were quoted is gone: a word that is the separator ends the stage. So
`echo` puts out quoted words exactly when none of them is the separator (`eval_echoLine_iff`).

1. Without a separator there is one stage, and it has all the words (`eval_echoLine`).
2. With one, the words are refused or make two or more stages. What these put out differs from the
   words: the separator's bar is missing in it, and stages make up no bars (`bars_runStages_le`,
   `pipelineBars_stages_le`).
-/

namespace LineShell

/-- The line that asks `echo` for words, each of them quoted. -/
def echoLine (words : List String) : String := "echo " ++ Text.unwords (words.map quote)

/-! ## Expansion -/

theorem expand_echoLine (scope : Scope) {words : List String} (hwords : ∀ w ∈ words, w ≠ "") :
    expand scope (echoLine words) = .ok { words := "echo" :: words } := by
  have hquoted : List.Forall₂ (Spells scope) (words.map quote) words := by
    rw [List.forall₂_map_left_iff, List.forall₂_same]
    exact fun w _ => spells_quote scope w
  have htext : (echoLine words).toList =
      "echo".toList ++ ' ' :: (Text.unwords (words.map quote)).toList := by
    rw [echoLine, String.toList_append]
    rfl
  have hkeep : words.filter (!·.isEmpty) = words := by
    rw [List.filter_eq_self]
    intro w hw
    simpa [String.isEmpty_iff] using hwords w hw
  rw [expand, Progress.feed, htext, (spells_echo scope).scan_space 0 rfl rfl,
    scan_unwords hquoted _ rfl rfl, hkeep]
  rfl

theorem gather_echoLine (scope : Scope) {words : List String} (hwords : ∀ w ∈ words, w ≠ "")
    (more : List String) :
    gather scope (echoLine words) more = ⟨.ok (some ("echo" :: words)), 0⟩ :=
  gather_of_expand (expand_echoLine scope hwords) more

theorem ofWords_echo {words : List String} (h : Pipeline.separator ∉ words) :
    Pipeline.ofWords ("echo" :: words) = .ok [⟨.echo, words⟩] := by
  rw [Pipeline.ofWords, Pipeline.stages_of_not_mem h]
  rfl

/-! ## Without a separator -/

/-- **Quoted words without a separator** are the arguments of one `echo`. -/
theorem eval_echoLine {σ : Type} [System σ] (s : Session σ) {words : List String}
    (hwords : ∀ w ∈ words, w ≠ "") (hsep : Pipeline.separator ∉ words) (more : List String) :
    s.eval (echoLine words) more =
      { result := .ok (.output (Text.unwords words)), session := s } := by
  have hgather := gather_echoLine s.scope hwords more
  rw [Session.eval_eq_evalWith,
    Session.evalWith_of_stages _ (by rw [hgather]) (ofWords_echo hsep), hgather]
  rfl

/-! ## With a separator -/

/-- The vertical bars in the arguments of the stages of a pipeline. -/
def pipelineBars (stages : Pipeline) : Nat := totalBars (stages.flatMap (·.args))

@[simp] theorem pipelineBars_cons (c : Command) (stages : Pipeline) :
    pipelineBars (c :: stages) = totalBars c.args + pipelineBars stages := by
  rw [pipelineBars, List.flatMap_cons, totalBars_append, pipelineBars]

theorem totalBars_stage_le (first : String) (args : List String) :
    totalBars (Pipeline.stage first args).args ≤ bars first + totalBars args := by
  rcases Pipeline.args_stage first args with ⟨name, value, rfl, hstage⟩ | hstage
  · rw [hstage]
    simp only [totalBars_cons, bars_append]
    omega
  · rw [hstage]
    exact Nat.le_add_left _ _

theorem pipelineBars_stages_le {first : String} {args rest : List String} {stages : Pipeline}
    (h : Pipeline.stages first args rest = .ok stages) :
    pipelineBars stages ≤ bars first + totalBars args + totalBars rest := by
  fun_induction Pipeline.stages first args rest generalizing stages with
  | case1 first args =>
    cases h
    rw [pipelineBars_cons]
    exact totalBars_stage_le first args
  | case2 => cases h
  | case3 first args next rest ih =>
    cases hnext : Pipeline.stages next [] rest with
    | error e => rw [hnext] at h; cases h
    | ok later =>
      rw [hnext] at h
      cases h
      have hfirst := totalBars_stage_le first args
      have hlater := ih hnext
      simp only [pipelineBars_cons, totalBars_cons, totalBars_nil] at hlater ⊢
      omega
  | case4 first args word rest hword ih =>
    have hrest := ih h
    simp only [totalBars_append, totalBars_cons, totalBars_nil] at hrest ⊢
    omega

theorem bars_runStages_le {input : Option String} {world : EmptySystem} {stages : Pipeline}
    {text : String} (h : (runStages input world stages).1 = .ok text) :
    bars text ≤ pipelineBars stages + bars (input.getD "") := by
  induction stages generalizing input world with
  | nil =>
    cases h
    exact Nat.le_add_left _ _
  | cons c rest ih =>
    cases hc : (c.run input .empty world).result with
    | error e =>
      simp only [runStages, hc] at h
      cases h
    | ok out =>
      simp only [runStages, hc] at h
      have hrest := ih h
      have hstage := bars_run_le hc
      rw [pipelineBars_cons]
      simp only [Option.getD_some] at hrest
      omega

/-- Words with a separator make two or more stages, in which the separator's bar is missing. -/
theorem exists_stages_of_mem {words : List String} (hsep : Pipeline.separator ∈ words)
    {stages : Pipeline} (h : Pipeline.ofWords ("echo" :: words) = .ok stages) :
    (∃ c d rest, stages = c :: d :: rest) ∧ pipelineBars stages < totalBars words := by
  obtain ⟨pre, post, rfl, hpre⟩ := List.eq_append_cons_of_mem hsep
  rw [Pipeline.ofWords, Pipeline.stages_append_separator hpre] at h
  cases post with
  | nil => cases h
  | cons next rest =>
    simp only [List.nil_append] at h
    cases hnext : Pipeline.stages next [] rest with
    | error e => rw [hnext] at h; cases h
    | ok later =>
      rw [hnext] at h
      cases h
      obtain ⟨d, later, rfl⟩ := List.exists_cons_of_ne_nil (Pipeline.stages_ne_nil hnext)
      refine ⟨⟨_, d, later, rfl⟩, ?_⟩
      have hfirst := totalBars_stage_le "echo" pre
      have hlater := pipelineBars_stages_le hnext
      have hecho : bars "echo" = 0 := by decide
      have hbar : bars Pipeline.separator = 1 := by decide
      simp only [pipelineBars_cons, totalBars_append, totalBars_cons, totalBars_nil] at hlater ⊢
      omega

/-- Without files and programs, a line with a quoted separator never puts out its words. -/
theorem eval_echoLine_ne {words : List String} (hwords : ∀ w ∈ words, w ≠ "")
    (hsep : Pipeline.separator ∈ words) (s : Session EmptySystem) (more : List String) :
    (s.eval (echoLine words) more).result ≠ .ok (.output (Text.unwords words)) := by
  have hgather := gather_echoLine s.scope hwords more
  have hfound : (gather s.scope (echoLine words) more).words = .ok (some ("echo" :: words)) := by
    rw [hgather]
  rw [Session.eval_eq_evalWith]
  cases hstages : Pipeline.ofWords ("echo" :: words) with
  | error e =>
    rw [Session.evalWith_of_parseError _ hfound hstages]
    exact fun h => by cases h
  | ok stages =>
    obtain ⟨⟨c, d, rest, rfl⟩, hlt⟩ := exists_stages_of_mem hsep hstages
    rw [Session.evalWith_of_stages _ hfound hstages, Session.runPipeline_many]
    cases hrun : (runStages none s.world (c :: d :: rest)).1 with
    | error e => exact fun h => by cases h
    | ok text =>
      intro h
      have htext : text = Text.unwords words := by simpa [Except.map, Except.mapError] using h
      have hle := bars_runStages_le hrun
      rw [htext, bars_unwords] at hle
      simp only [Option.getD_none, bars_empty] at hle
      omega

/-! ## Exactly then -/

/-- **Quoted words are arguments, except the separator.** In every session `echo` puts out the
quoted words with single spaces between them and leaves the scope alone, if and only if none of them
is the separator. -/
theorem eval_echoLine_iff (words : List String) (hwords : ∀ w ∈ words, w ≠ "") :
    (∀ (σ : Type) [System σ] (s : Session σ) (more : List String),
      (s.eval (echoLine words) more).result = .ok (.output (Text.unwords words)) ∧
        (s.eval (echoLine words) more).session.scope = s.scope) ↔
      Pipeline.separator ∉ words := by
  constructor
  · intro h hsep
    exact eval_echoLine_ne hwords hsep { world := {} } [] (h EmptySystem { world := {} } []).1
  · intro hsep σ _ s more
    rw [eval_echoLine s hwords hsep more]
    exact ⟨rfl, rfl⟩

/-- Words with spaces, quotes, a dollar sign and bars that are not alone. -/
theorem eval_echoLine_iff_four :
    echoLine ["a  b", "it's", "$x", "||"] = "echo 'a  b' 'it'\"'\"'s' '$x' '||'" ∧
      (Session.eval ({ world := {} } : Session EmptySystem)
        "echo 'a  b' 'it'\"'\"'s' '$x' '||'" []).result = .ok (.output "a  b it's $x ||") := by
  have hline : echoLine ["a  b", "it's", "$x", "||"] = "echo 'a  b' 'it'\"'\"'s' '$x' '||'" := by
    decide +kernel
  have hecho := (eval_echoLine_iff ["a  b", "it's", "$x", "||"] (by decide)).mpr (by decide)
    EmptySystem { world := {} } []
  rw [hline] at hecho
  exact ⟨hline, hecho.1⟩

/-- A quoted separator ends the stage, and there is no command after it. -/
theorem eval_echoLine_separator :
    echoLine ["|"] = "echo '|'" ∧
      (Session.eval ({ world := {} } : Session EmptySystem) "echo '|'" []).result =
        .error (.parse .expectedCommand) := by
  decide +kernel

end LineShell
