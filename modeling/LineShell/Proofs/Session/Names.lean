import LineShell.Proofs.Lookup.Exact
import LineShell.Proofs.Session.Variables

/-!
# Names in a session

No word that a scan finishes is empty, and so nothing in a session goes without a name: no stage, no
variable, and no argument but the value of an assignment (`words_and_names_nonempty`).

1. The words of a pipeline are not empty, so neither is the first word of a stage, from which it has
   its name, nor any other, which is an argument. An assignment is cut out of its first word, and
   what stands before the equals sign has a character (`Pipeline.Block.isNamed`).
2. A name with a character has a component, so the lookup of a program never comes to the case of a
   name without one (`Command.IsNamed.lookup`).
3. Of a line, `eval` runs the stages that its words make, and no others (`evalWith_eq_eval`).
-/

namespace LineShell

/-- Nothing about the command is empty that has to be named. -/
structure Command.IsNamed (c : Command) : Prop where
  name_ne_empty : c.name ≠ ""
  /-- Only the value of an assignment, its second argument, may be empty. -/
  arg_ne_empty : ∀ i arg, c.args[i]? = some arg → ¬(c.kind = .assign ∧ i = 1) → arg ≠ ""
  /-- If a program is looked up, its name is a path or has a component. -/
  lookup : ∀ name, c.kind = .external name →
    (Lookup.isAbsolute name || Lookup.startsHere name) = true ∨ Lookup.components name ≠ []

/-! ## Stages -/

namespace Lookup

theorem isPath_or_components_ne_nil {name : String} (hne : name ≠ "") :
    (isAbsolute name || startsHere name) = true ∨ components name ≠ [] := by
  refine (front_ne_nil_or_components_ne_nil hne).imp_left fun hfront => ?_
  rw [Bool.or_eq_true]
  by_contra hnone
  push Not at hnone
  exact hfront (by rw [front, if_neg hnone.1, if_neg hnone.2])

end Lookup

namespace Pipeline

theorem mem_sentence {blocks : List Block} {b : Block} {word : String} (hb : b ∈ blocks)
    (hword : word ∈ b.words) : word ∈ sentence blocks := by
  induction blocks with
  | nil => cases hb
  | cons first blocks ih =>
    by_cases hnil : blocks = []
    · subst hnil
      rw [List.mem_singleton] at hb
      rwa [sentence_singleton, ← hb]
    · rw [sentence_cons_of_ne_nil first hnil, List.mem_append, List.mem_cons]
      rcases List.mem_cons.mp hb with rfl | hb
      · exact .inl hword
      · exact .inr (.inr (ih hb))

theorem Block.isNamed {b : Block} (h : ∀ word ∈ b.words, word ≠ "") : b.command.IsNamed := by
  have hfirst : b.first ≠ "" := h b.first List.mem_cons_self
  have hargs : ∀ arg ∈ b.args, arg ≠ "" := fun arg harg => h arg (List.mem_cons_of_mem _ harg)
  generalize hc : b.command = c
  cases Block.denotes_iff.mpr hc.symm with
  | @assignment name value hassign =>
    have hequals : Kind.assignName ≠ "" := by decide
    refine ⟨hequals, fun i arg hi hvalue => ?_, fun _ hkind => Kind.noConfusion hkind⟩
    match i with
    | 0 => exact Option.some.inj hi ▸ hassign.name_ne_empty
    | 1 => exact absurd ⟨rfl, rfl⟩ hvalue
    | i + 2 => exact hargs arg (List.mem_of_getElem? hi)
  | named _ =>
    refine ⟨?_, fun i arg hi _ => hargs arg (List.mem_of_getElem? hi), fun name hkind => ?_⟩
    · rwa [Command.name, Kind.name_ofName]
    · have hname : b.first = name := by
        rw [← Kind.name_ofName b.first, show Kind.ofName b.first = .external name from hkind]
        rfl
      exact Lookup.isPath_or_components_ne_nil (hname ▸ hfirst)

theorem isNamed_of_mem {words : List String} {stages : Pipeline} (h : ofWords words = .ok stages)
    (hwords : ∀ word ∈ words, word ≠ "") : ∀ c ∈ stages, c.IsNamed := by
  obtain ⟨blocks, rfl, rfl⟩ := ofWords_eq_ok_iff.mp h
  intro c hc
  obtain ⟨b, hb, rfl⟩ := List.mem_map.mp hc
  exact b.isNamed fun word hword => hwords word (mem_sentence hb hword)

end Pipeline

/-! ## Steps -/

namespace Session

variable {σ : Type} [System σ]

/-- What has a name at a step of a session. -/
structure NamedStep (s : Session σ) (e : Entry) : Prop where
  /-- The words that are taken are all that the lines lead to, so no text is lost with what is put
  away. -/
  words : ∀ words, (gather s.scope e.line e.more).words = .ok (some words) →
    Progress.Follows {} { words }
  stages : ∀ words stages, (gather s.scope e.line e.more).words = .ok (some words) →
    Pipeline.ofWords words = .ok stages → ∀ c ∈ stages, c.IsNamed
  /-- No other stages are run: it makes no difference what would be done with them. -/
  runs : ∀ run : Session σ → Pipeline → Step σ,
    (∀ t stages, (∀ c ∈ stages, c.IsNamed) → run t stages = t.runPipeline stages) →
      s.evalWith run e.line e.more = s.eval e.line e.more
  bound : ∀ name value, s.scope.get? name = some value → name ≠ ""

theorem isNamed_of_gather {scope : Scope} {line : String} {more words : List String}
    {stages : Pipeline} (h : (gather scope line more).words = .ok (some words))
    (hwords : Pipeline.ofWords words = .ok stages) : ∀ c ∈ stages, c.IsNamed :=
  Pipeline.isNamed_of_mem hwords (words_ne_empty_of_gather h)

theorem evalWith_eq_eval (s : Session σ) (e : Entry) (run : Session σ → Pipeline → Step σ)
    (hrun : ∀ t stages, (∀ c ∈ stages, c.IsNamed) → run t stages = t.runPipeline stages) :
    s.evalWith run e.line e.more = s.eval e.line e.more := by
  rcases unreadable_or_stages s.scope e.line e.more with hu | ⟨words, stages, h, hwords⟩
  · exact (evalWith_of_unreadable hu).1 run
  · rw [eval_eq_evalWith, evalWith_of_stages run h hwords, evalWith_of_stages _ h hwords,
      hrun s stages (isNamed_of_gather h hwords)]

/-- **Nothing goes without a name.** Along any chain of lines, under any scopes, the progress
between two lines has no empty word, has pending text, which ends in a line feed, exactly while a
quote is open, and keeps the words that it has. So after any commands of a session the words that
are taken are the whole text of the lines, every stage that is run has a name and no empty argument
but the value of an assignment, a program that is looked up has a name with components, and no
variable with an empty name is bound. -/
theorem words_and_names_nonempty :
    (∀ p, Progress.Follows {} p →
      p.Between ∧ (p.pending = "" ↔ p.isComplete = true) ∧
        ∀ q, Progress.Follows p q → p.words <+: q.words) ∧
    ∀ {σ : Type} [System σ] (world : σ) (entries : List Entry) (e : Entry),
      (after { world } entries).NamedStep e := by
  constructor
  · intro p hp
    have hbetween := hp.between Progress.between_start
    exact ⟨hbetween, hbetween.pending_eq_empty_iff, fun q hq => hq.words_prefix⟩
  · intro σ _ world entries e
    exact
      { words := fun words h => follows_of_gather h
        stages := fun words stages h hwords => isNamed_of_gather h hwords
        runs := fun run hrun => evalWith_eq_eval _ e run hrun
        bound := fun name value h => name_ne_empty_of_after h }

/-- Two lines, the second of which closes a quote and opens another one, under scopes that bind `x`
to something and to nothing. In a session, an assignment of nothing and its further argument are a
stage in front of a program. -/
theorem words_and_names_nonempty_quotes :
    (∃ p q : Progress, Progress.feed (.ofList [("x", "1")]) {} "a '$x" = .ok p ∧
      Progress.feed (.ofList [("x", "")]) p "'$x \"\" \"$x" = .ok q ∧
      p = ⟨.single, "$x\n", ["a"]⟩ ∧ q = ⟨.double, "\n", ["a", "$x\n"]⟩ ∧
      p.words <+: q.words ∧ q.Between) ∧
    (gather (.ofList [("x", "")]) "x=$x '$x" ["' | ./a"]).words =
      .ok (some ["x=", "$x\n", "|", "./a"]) ∧
    (∀ c : Command, c = ⟨.assign, ["x", "", "$x\n"]⟩ ∨ c = ⟨.external "./a", []⟩ → c.IsNamed) ∧
    ∀ name value, (after ({ world := ⟨⟨[]⟩, [], ""⟩ } : Session Sandbox)
      [⟨"x=", []⟩]).scope.get? name = some value → name ≠ "" := by
  have hfirst : Progress.feed (.ofList [("x", "1")]) {} "a '$x" = .ok ⟨.single, "$x\n", ["a"]⟩ := by
    decide +kernel
  have hsecond : Progress.feed (.ofList [("x", "")]) ⟨.single, "$x\n", ["a"]⟩ "'$x \"\" \"$x" =
      .ok ⟨.double, "\n", ["a", "$x\n"]⟩ := by decide +kernel
  have hwords : (gather (.ofList [("x", "")]) "x=$x '$x" ["' | ./a"]).words =
      .ok (some ["x=", "$x\n", "|", "./a"]) := by decide +kernel
  have hscope : (after ({ world := ⟨⟨[]⟩, [], ""⟩ } : Session Sandbox) [⟨"x=", []⟩]).scope =
      .ofList [("x", "")] := by
    rw [after_scope]
    decide +kernel
  have hchain := words_and_names_nonempty.1 _ (.feed .refl hfirst)
  have hstep := words_and_names_nonempty.2 (⟨⟨[]⟩, [], ""⟩ : Sandbox) [⟨"x=", []⟩]
    ⟨"x=$x '$x", ["' | ./a"]⟩
  refine ⟨⟨_, _, hfirst, hsecond, rfl, rfl, hchain.2.2 _ (.feed .refl hsecond), ?_⟩, hwords, ?_,
    hstep.bound⟩
  · exact (words_and_names_nonempty.1 _ (.feed (.feed .refl hfirst) hsecond)).1
  · intro c hc
    refine hstep.stages ["x=", "$x\n", "|", "./a"] [⟨.assign, ["x", "", "$x\n"]⟩,
      ⟨.external "./a", []⟩] (by rw [hscope]; exact hwords) (by decide) c ?_
    simpa using hc

end Session

end LineShell
