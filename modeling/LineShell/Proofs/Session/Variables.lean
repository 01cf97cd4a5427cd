import LineShell.Proofs.Expansion.Chains
import LineShell.Proofs.Expansion.Quotation
import LineShell.Proofs.Expansion.References
import LineShell.Proofs.Pipeline.Grammar
import LineShell.Proofs.Session.Scope

/-!
# Writing and reading variables

A line that is the quotation of `name=value` binds the name (`eval_assignmentLine`), and from then
on `echo` and a dollar sign before the name put out the value, whatever else is bound
(`eval_readingLine`). Any characters may stand in the name, except the equals sign that ends it and
the space that ends a reference.

The first of these is ruled out by the reading of words, the second is not: an assignment takes its
name from a word, and a quoted word may have spaces. So of the names that a session can bind, none
is empty (`name_ne_empty_of_after`), but only those without a space can be read; a name with a space
is bound for nothing (`bound_name_read_or_inert`).
-/

namespace LineShell

/-! ## Lines -/

/-- The line that binds `name` to `value`. -/
def assignmentLine (name value : String) : String := quote (name ++ "=" ++ value)

/-- The line that asks `echo` for the value of `name`. -/
def readingLine (name : String) : String := "echo $" ++ name

theorem expand_assignmentLine (scope : Scope) (name value : String) :
    expand scope (assignmentLine name value) = .ok { words := [name ++ "=" ++ value] } := by
  have hword : (name ++ "=" ++ value).isEmpty = false := by
    rw [Bool.eq_false_iff, ne_eq, String.isEmpty_iff, ← String.toList_eq_nil_iff]
    simp
  rw [expand, Progress.feed, assignmentLine, (spells_quote scope _).scan_end 0 rfl rfl]
  simp [hword]

theorem ofWords_assignment {name : String} (value : String) (hne : name ≠ "")
    (hequals : '=' ∉ name.toList) :
    Pipeline.ofWords [name ++ "=" ++ value] = .ok [⟨.assign, [name, value]⟩] := by
  rw [Pipeline.ofWords, Pipeline.stages_nil, Pipeline.stage,
    Pipeline.splitAssignment_eq_some_iff.mpr ⟨rfl, hne, hequals⟩]

theorem expand_readingLine {scope : Scope} {name value : String} (hne : name ≠ "")
    (hspace : ' ' ∉ name.toList) (hvalue : scope.get? name = some value) :
    expand scope (readingLine name) = .ok { words := "echo" :: [value].filter (!·.isEmpty) } := by
  have htext : (readingLine name).toList = "echo".toList ++ ' ' :: '$' :: name.toList := by
    rw [readingLine, String.toList_append]
    rfl
  rw [expand, Progress.feed, htext, (spells_echo scope).scan_space 0 rfl rfl,
    Progress.scan_dollar_name hne hspace hvalue _ (by simp), Progress.endLine_of_bare rfl,
    Progress.endWord_eq, Progress.pending_append, String.empty_append]
  rfl

theorem ofWords_reading {value : String} (hvalue : value ≠ Pipeline.separator) :
    Pipeline.ofWords ("echo" :: [value].filter (!·.isEmpty)) =
      .ok [⟨.echo, [value].filter (!·.isEmpty)⟩] := by
  have hsep : Pipeline.separator ∉ [value].filter (!·.isEmpty) := by
    intro hmem
    exact hvalue (List.mem_singleton.mp (List.mem_of_mem_filter hmem)).symm
  rw [Pipeline.ofWords, Pipeline.stages_of_not_mem hsep]
  rfl

theorem unwords_filter_singleton (value : String) :
    Text.unwords ([value].filter (!·.isEmpty)) = value := by
  by_cases hnil : value = ""
  · subst hnil
    rfl
  · have hkeep : value.isEmpty = false := by
      rw [Bool.eq_false_iff, ne_eq, String.isEmpty_iff]
      exact hnil
    simp [hkeep, Text.unwords]

/-! ## Writing, then reading -/

namespace Session

variable {σ : Type} [System σ]

/-- **Writing.** The quotation of `name=value` binds the name and does nothing else. -/
theorem eval_assignmentLine (s : Session σ) {name : String} (value : String) (hne : name ≠ "")
    (hequals : '=' ∉ name.toList) (more : List String) :
    s.eval (assignmentLine name value) more =
      { result := .ok (.output ""), session := { s with scope := s.scope.set name value } } := by
  have hgather := gather_of_expand (expand_assignmentLine s.scope name value) more
  rw [eval_eq_evalWith,
    evalWith_of_stages _ (by rw [hgather]) (ofWords_assignment value hne hequals), hgather]
  rfl

/-- **Reading.** Whatever other names are bound, the value of the name is put out. -/
theorem eval_readingLine {s : Session σ} {name value : String} (hne : name ≠ "")
    (hspace : ' ' ∉ name.toList) (hvalue : value ≠ Pipeline.separator)
    (hbound : s.scope.get? name = some value) (more : List String) :
    s.eval (readingLine name) more = { result := .ok (.output value), session := s } := by
  have hgather := gather_of_expand (expand_readingLine hne hspace hbound) more
  have hecho : s.runPipeline [⟨.echo, [value].filter (!·.isEmpty)⟩] =
      { result := .ok (.output value), session := s } := by
    rw [runPipeline_single s (by simp)]
    simp only [Command.run, unwords_filter_singleton]
    rfl
  rw [eval_eq_evalWith, evalWith_of_stages _ (by rw [hgather]) (ofWords_reading hvalue), hgather,
    hecho]

/-- **What is written is read.** For every name that is not empty and has neither an equals sign nor
a space, and every value that is not the separator: quoted, `name=value` puts out nothing and
changes the session in this one binding; and then, as in every session with that binding, `echo`
puts out the value that the dollar sign and the name stand for. -/
theorem write_then_read (s : Session σ) (name value : String) (hne : name ≠ "")
    (hequals : '=' ∉ name.toList) (hspace : ' ' ∉ name.toList)
    (hvalue : value ≠ Pipeline.separator) (more : List String) :
    s.eval (assignmentLine name value) more =
      { result := .ok (.output ""), session := { s with scope := s.scope.set name value } } ∧
    (∀ more', (s.eval (assignmentLine name value) more).session.eval (readingLine name) more' =
      { result := .ok (.output value)
        session := (s.eval (assignmentLine name value) more).session }) ∧
    ∀ (t : Session σ) (more' : List String), t.scope.get? name = some value →
      t.eval (readingLine name) more' = { result := .ok (.output value), session := t } := by
  have hwrite := eval_assignmentLine s value hne hequals more
  refine ⟨hwrite, fun more' => ?_, fun t more' hbound => ?_⟩
  · rw [hwrite]
    exact eval_readingLine hne hspace hvalue (s.scope.get?_set_self name value) more'
  · exact eval_readingLine hne hspace hvalue hbound more'

/-- A name of quotes, a dollar sign, a bar, a tab and a line feed that starts with a name that is
bound already, and a value that looks like a flag and a pipeline. -/
theorem write_then_read_marks :
    assignmentLine "x'\"$|\t\n" "-n 'a' | $x" =
      "'x'\"'\"'\"$|\t\n=-n '\"'\"'a'\"'\"' | $x'" ∧
    (after ({ scope := .ofList [("x", "1")], world := ⟨⟨[]⟩, [], ""⟩ } : Session Sandbox)
      [⟨assignmentLine "x'\"$|\t\n" "-n 'a' | $x", []⟩]).scope =
        .ofList [("x", "1"), ("x'\"$|\t\n", "-n 'a' | $x")] ∧
    ((after ({ scope := .ofList [("x", "1")], world := ⟨⟨[]⟩, [], ""⟩ } : Session Sandbox)
      [⟨assignmentLine "x'\"$|\t\n" "-n 'a' | $x", []⟩]).eval
        "echo $x'\"$|\t\n" []).result = .ok (.output "-n 'a' | $x") := by
  obtain ⟨hwrite, hread, -⟩ := write_then_read
    ({ scope := .ofList [("x", "1")], world := ⟨⟨[]⟩, [], ""⟩ } : Session Sandbox)
    "x'\"$|\t\n" "-n 'a' | $x" (by decide) (by decide) (by decide) (by decide) []
  have hread := hread []
  rw [hwrite] at hread
  simp only [after, List.foldl_cons, List.foldl_nil, hwrite]
  exact ⟨by decide +kernel, rfl, congrArg Step.result hread⟩

end Session

/-! ## The names that a session binds -/

theorem words_ne_empty_of_gather {scope : Scope} {line : String} {more words : List String}
    (h : (gather scope line more).words = .ok (some words)) : ∀ word ∈ words, word ≠ "" :=
  ((follows_of_gather h).between Progress.between_start).words

/-- An assignment takes its name from before an equals sign or from a word of its own. Neither is
empty. -/
theorem Entry.Assigns.name_ne_empty {scope : Scope} {e : Entry} {name value : String}
    (h : e.Assigns scope name value) : name ≠ "" := by
  obtain ⟨words, hgather, hwords⟩ := h
  have hword := words_ne_empty_of_gather hgather
  -- the words are those of one block, which denotes the assignment
  obtain ⟨blocks, rfl, hblocks⟩ := Pipeline.ofWords_eq_ok_iff.mp hwords
  obtain ⟨b, rfl, hb⟩ := List.map_eq_singleton_iff.mp hblocks.symm
  rw [Pipeline.sentence_singleton] at hword
  generalize hc : (⟨.assign, [name, value]⟩ : Command) = c at hb
  cases Pipeline.Block.denotes_iff.mpr hb.symm with
  | assignment hassign =>
    injection hc with _ hargs
    injection hargs with hname _
    rw [hname]
    exact hassign.name_ne_empty
  | named _ =>
    injection hc with _ hargs
    apply hword name
    rw [Pipeline.Block.words, ← hargs]
    simp

/-- What holds of a scope and is kept by the assignments of lines holds after any lines. -/
theorem Scope.replay_induction {P : Scope → Prop} {scope : Scope} (start : P scope)
    (step : ∀ (scope : Scope) (e : Entry) (name value : String), P scope →
      e.Assigns scope name value → P (scope.set name value))
    (entries : List Entry) : P (scope.replay entries) := by
  induction entries generalizing scope with
  | nil => exact start
  | cons e entries ih =>
    have hnext : P (scope.update (e.binding? scope)) := by
      cases hb : e.binding? scope with
      | none => exact start
      | some pair => exact step scope e pair.1 pair.2 start (Entry.binding?_eq_some_iff.mp hb)
    exact ih hnext

namespace Session

variable {σ : Type} [System σ]

theorem name_ne_empty_of_after {world : σ} {entries : List Entry} {name value : String}
    (h : (after { world } entries).scope.get? name = some value) : name ≠ "" := by
  have hnone : ((Scope.empty).replay entries).get? "" = none := by
    apply Scope.replay_induction (P := fun scope => scope.get? "" = none) (Scope.get?_empty "")
    intro scope e name value hscope hassign
    rw [Scope.get?_set_of_ne scope value hassign.name_ne_empty, hscope]
  rintro rfl
  rw [after_scope, hnone] at h
  cases h

/-- **A variable of a session can be read, or its name has a space.** Whatever commands a session
has run, a name that it has bound is not empty. Without a space, a dollar sign and the name expand
to the value, or to no word if the value is empty. With a space, binding the name makes no
difference to the expansion of any line, and so the value is never read. -/
theorem bound_name_read_or_inert (world : σ) (entries : List Entry) (name value : String)
    (h : (after { world } entries).scope.get? name = some value) :
    name ≠ "" ∧
    (' ' ∉ name.toList →
      expand (after { world } entries).scope ("$" ++ name) =
        .ok { quoting := .bare, pending := "", words := if value = "" then [] else [value] }) ∧
    (' ' ∈ name.toList → ∀ (other : String) (p : Progress) (line : String),
      p.feed ((after { world } entries).scope.set name other) line =
        p.feed (after { world } entries).scope line) := by
  have hne := name_ne_empty_of_after h
  refine ⟨hne, fun hspace => ?_, fun hspace other p line => ?_⟩
  · have hwords : [value].filter (!·.isEmpty) = if value = "" then [] else [value] := by
      by_cases hvalue : value = "" <;> simp [hvalue]
    rw [expand_dollar_name hne hspace h, hwords]
  · exact Progress.feed_set_of_space _ other p line hspace

/-- A session of two commands that binds a name and the same name with a space and more after it. -/
theorem bound_name_read_or_inert_two :
    (after ({ world := ⟨⟨[]⟩, [], ""⟩ } : Session Sandbox)
      [⟨"x=1", []⟩, ⟨"'x y'=\"$x", ["2\""]⟩]).scope = .ofList [("x", "1"), ("x y", "1\n2")] ∧
    expand (after ({ world := ⟨⟨[]⟩, [], ""⟩ } : Session Sandbox)
      [⟨"x=1", []⟩, ⟨"'x y'=\"$x", ["2\""]⟩]).scope "$x" =
        .ok { quoting := .bare, pending := "", words := ["1"] } ∧
    ∀ (other : String) (p : Progress) (line : String),
      p.feed ((after ({ world := ⟨⟨[]⟩, [], ""⟩ } : Session Sandbox)
        [⟨"x=1", []⟩, ⟨"'x y'=\"$x", ["2\""]⟩]).scope.set "x y" other) line =
      p.feed (after ({ world := ⟨⟨[]⟩, [], ""⟩ } : Session Sandbox)
        [⟨"x=1", []⟩, ⟨"'x y'=\"$x", ["2\""]⟩]).scope line := by
  have hscope : (after ({ world := ⟨⟨[]⟩, [], ""⟩ } : Session Sandbox)
      [⟨"x=1", []⟩, ⟨"'x y'=\"$x", ["2\""]⟩]).scope = .ofList [("x", "1"), ("x y", "1\n2")] := by
    rw [after_scope]
    decide +kernel
  refine ⟨hscope, ?_, ?_⟩
  · exact (bound_name_read_or_inert _ _ "x" "1" (by rw [hscope]; decide +kernel)).2.1 (by decide)
  · exact (bound_name_read_or_inert _ _ "x y" "1\n2" (by rw [hscope]; decide +kernel)).2.2
      (by decide)

/-- A quoted assignment to a name with a space binds that name, and the name cannot be read. -/
theorem bound_name_with_space :
    (after ({ world := ⟨⟨[]⟩, [], ""⟩ } : Session Sandbox) [⟨"'a b=1'", []⟩]).scope =
        .ofList [("a b", "1")] ∧
      expand (after ({ world := ⟨⟨[]⟩, [], ""⟩ } : Session Sandbox) [⟨"'a b=1'", []⟩]).scope
        "$a b" = .error ⟨0⟩ := by
  rw [after_scope]
  decide +kernel

end Session

end LineShell
