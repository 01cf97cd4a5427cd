import LineShell.Proofs.Session.PassedOn
import LineShell.Proofs.Text.Blanks
import LineShell.Proofs.Text.IllFormed

/-!
# Programs that copy their input

A stage that runs a program reads its output leniently and trims it, so even a program that copies
its input takes trailing blanks away, but nothing else (`copied_text_stable`).

1. The output of a program that succeeds is a trimmed text, whatever bytes the program wrote
   (`Command.Writes.run`). A copy of it is read as the same text, since the reading undoes the
   encoding, and has nothing left to trim (`Command.CopiesAt.run_trimmed`).
2. What stages do depends on the stages in front of them only through the output of these and the
   system that they leave behind (`runStages_result_congr`). So behind a stage that runs a program,
   one that copies its input is not noticed (`runStages_result_insert`).
-/

namespace LineShell

variable {σ : Type} [System σ]

/-! ## A single stage -/

/-- Whatever the program had to read could be written, and it ended with status 0. -/
def Finished.Succeeds (input : String) (f : Finished) : Prop :=
  f.status = .exited 0 ∧ (input ≠ "" → f.delivery = .complete ∨ f.delivery = .refused)

/-- The stage runs a program, which writes these bytes on the input and succeeds. -/
def Command.Writes (c : Command) (input : Option String) (world : σ) (bytes : List UInt8) : Prop :=
  ∃ name path finished world', c.kind = .external name ∧ programPath? world name = some path ∧
    System.execute world path c.args (Text.Utf8.encode (input.getD "")) =
      .ended finished world' ∧
    finished.Succeeds (input.getD "") ∧ finished.output = bytes

/-- The stage runs a program that copies its input and succeeds. -/
def Command.CopiesAt (c : Command) (world : σ) : Prop :=
  ∀ text, c.Writes (some text) world (Text.Utf8.encode text)

/-- The stage leaves the system as it is. -/
def Command.Spares (c : Command) (world : σ) : Prop :=
  ∀ input, (c.run input .empty world).world = world

section Stage

variable {c : Command} {input : Option String} {world : σ} {bytes : List UInt8}

theorem Finished.result_eq_ok_iff {name input text : String} {f : Finished} :
    f.result name input = .ok text ↔
      f.Succeeds input ∧ text = Text.trimEnd (Text.Utf8.decodeLossy f.output) := by
  obtain ⟨output, errors, status, delivery⟩ := f
  simp only [result, Succeeds]
  by_cases hinput : input = "" <;> by_cases hstatus : status = .exited 0 <;>
    cases delivery <;> simp [hinput, hstatus, eq_comm]

theorem Command.Writes.run (h : c.Writes input world bytes) (scope : Scope) :
    (c.run input scope world).result = .ok (Text.trimEnd (Text.Utf8.decodeLossy bytes)) := by
  obtain ⟨name, path, finished, world', hkind, hpath, hrun, hsucceeds, rfl⟩ := h
  simp only [Command.run, hkind, runProgram, hpath, hrun]
  exact Finished.result_eq_ok_iff.mpr ⟨hsucceeds, rfl⟩

theorem Command.CopiesAt.run (h : c.CopiesAt world) (text : String) (scope : Scope) :
    (c.run (some text) scope world).result = .ok (Text.trimEnd text) := by
  rw [(h text).run scope, Text.Utf8.decodeLossy_encode]

theorem Command.CopiesAt.run_trimmed (h : c.CopiesAt world) {text trimmed : String}
    (htrimmed : Text.Trimmed text trimmed) (scope : Scope) :
    (c.run (some trimmed) scope world).result = .ok trimmed := by
  rw [h.run, htrimmed.eq, Text.trimEnd_trimEnd]

theorem Command.exists_writes_of_ok {name text : String} (hkind : c.kind = .external name)
    {scope : Scope} (h : (c.run input scope world).result = .ok text) :
    ∃ bytes, c.Writes input world bytes := by
  simp only [Command.run, hkind, runProgram] at h
  split at h
  · cases h
  · rename_i path hpath
    split at h
    · cases h
    · cases h
    · rename_i finished world' hrun
      obtain ⟨hsucceeds, -⟩ := Finished.result_eq_ok_iff.mp h
      exact ⟨finished.output, name, path, finished, world', hkind, hpath, hrun, hsucceeds, rfl⟩

/-- A program that is not fed runs on an empty input. -/
theorem Command.run_of_external {name : String} (hkind : c.kind = .external name)
    (input : Option String) (scope : Scope) (world : σ) :
    c.run input scope world = c.run (some (input.getD "")) scope world := by
  simp only [Command.run, hkind, runProgram, Option.getD_some]

end Stage

/-! ## Several stages -/

section Stages

variable {input : Option String} {world : σ} {before p q : Pipeline}

/-- **Behind the same stages** two pipelines have the same result if they have it on what these
stages hand to them, by induction on the stages. -/
theorem runStages_result_congr
    (h : ∀ input' world' errors,
      runStages input world before = (.ok (input'.getD ""), world', errors) →
        (runStages input' world' p).1 = (runStages input' world' q).1) :
    (runStages input world (before ++ p)).1 = (runStages input world (before ++ q)).1 := by
  induction before generalizing input world with
  | nil => exact h input world [] rfl
  | cons c before ih =>
    cases hrun : (c.run input .empty world).result with
    | error e => simp only [List.cons_append, runStages, hrun]
    | ok text =>
      rw [List.cons_append, List.cons_append, runStages_cons_of_ok hrun, runStages_cons_of_ok hrun]
      refine ih fun input' world' errors hbefore =>
        h input' world' ((c.run input .empty world).errors ++ errors) ?_
      rw [runStages_cons_of_ok hrun, hbefore]

/-- Behind a stage that runs a program, one that copies its input is not noticed. -/
theorem runStages_result_insert {c filter : Command} {name : String}
    (hkind : c.kind = .external name) (after : Pipeline)
    (hcopies : ∀ text, (c.run input .empty world).result = .ok text →
      filter.CopiesAt (c.run input .empty world).world)
    (hspares : ∀ text, (c.run input .empty world).result = .ok text → after ≠ [] →
      filter.Spares (c.run input .empty world).world) :
    (runStages input world (c :: filter :: after)).1 =
      (runStages input world (c :: after)).1 := by
  cases hrun : (c.run input .empty world).result with
  | error e => simp only [runStages, hrun]
  | ok text =>
    obtain ⟨bytes, hwrites⟩ := c.exists_writes_of_ok hkind hrun
    have htext := hwrites.run .empty
    rw [hrun, Except.ok.injEq] at htext
    have htrimmed : Text.Trimmed (Text.Utf8.decodeLossy bytes) text :=
      htext ▸ Text.trimmed_trimEnd (Text.Utf8.decodeLossy bytes)
    have hfilter := (hcopies text hrun).run_trimmed htrimmed .empty
    rw [runStages_cons_of_ok hrun, runStages_cons_of_ok hrun, runStages_cons_of_ok hfilter]
    cases after with
    | nil => rfl
    | cons next after => rw [hspares text hrun (List.cons_ne_nil next after)]

end Stages

/-- **Behind a stage that runs a program** a copying stage changes the result of no pipeline. -/
theorem Session.result_insert (s : Session σ) (before after : Pipeline) {c filter : Command}
    {name : String} (hkind : c.kind = .external name)
    (h : ∀ text world errors, runStages none s.world before = (.ok text, world, errors) →
      ∀ copied, (c.run (some text) .empty world).result = .ok copied →
        filter.CopiesAt (c.run (some text) .empty world).world ∧
          (after ≠ [] → filter.Spares (c.run (some text) .empty world).world)) :
    (s.runPipeline (before ++ c :: filter :: after)).result =
      (s.runPipeline (before ++ c :: after)).result := by
  have hstages : (runStages none s.world (before ++ c :: filter :: after)).1 =
      (runStages none s.world (before ++ c :: after)).1 := by
    refine runStages_result_congr fun input world errors hbefore => ?_
    have hlater := h (input.getD "") world errors hbefore
    rw [← Command.run_of_external hkind] at hlater
    exact runStages_result_insert hkind after (fun text hrun => (hlater text hrun).1)
      fun text hrun => (hlater text hrun).2
  -- if one of the two pipelines has a single stage, this is `c`
  have hresult (rest : Pipeline) : (s.runPipeline (before ++ c :: rest)).result =
      ((runStages none s.world (before ++ c :: rest)).1.map .output).mapError .command := by
    refine s.result_eq_runStages (by simp) fun d hd => ?_
    have hc : c ∈ [d] := by rw [← hd]; simp
    rw [← List.mem_singleton.mp hc, hkind]
    exact Kind.noConfusion
  rw [hresult, hresult, hstages]

/-- **Text survives programs that copy it, up to trailing blanks.** A stage whose program copies its
input puts out the text that it is fed without trailing blanks. Whatever bytes a program writes
that succeeds, its stage puts out the lenient reading of the bytes without trailing blanks, which
does not end in a blank, and a program that copies its input hands this text on unchanged. So a
copying stage right behind another one changes the result of no pipeline, and neither does one right
behind any stage that runs a program, unless it changes the system for the stages behind it. -/
theorem copied_text_stable :
    (∀ (c : Command) (world : σ), c.CopiesAt world → ∀ text scope,
      ∃ trimmed, Text.Trimmed text trimmed ∧
        (c.run (some text) scope world).result = .ok trimmed) ∧
    (∀ (c : Command) (input : Option String) (world : σ) (bytes : List UInt8),
      c.Writes input world bytes → ∀ scope,
        ∃ text trimmed, Text.Utf8.LossyText bytes text ∧ Text.Trimmed text trimmed ∧
          (c.run input scope world).result = .ok trimmed ∧
          ∀ (filter : Command) (world' : σ), filter.CopiesAt world' → ∀ scope',
            (filter.run (some trimmed) scope' world').result = .ok trimmed) ∧
    ∀ (s : Session σ) (before after : Pipeline) (c filter : Command) (name : String),
      c.kind = .external name →
      (∀ text world errors, runStages none s.world before = (.ok text, world, errors) →
        ∀ copied, (c.run (some text) .empty world).result = .ok copied →
          filter.CopiesAt (c.run (some text) .empty world).world ∧
            (after ≠ [] → filter.Spares (c.run (some text) .empty world).world)) →
      (s.runPipeline (before ++ c :: filter :: after)).result =
        (s.runPipeline (before ++ c :: after)).result := by
  refine ⟨fun c world h text scope => ?_, fun c input world bytes h scope => ?_,
    fun s before after c filter name hkind h => s.result_insert before after hkind h⟩
  · exact ⟨Text.trimEnd text, Text.trimmed_trimEnd text, h.run text scope⟩
  · have htrimmed := Text.trimmed_trimEnd (Text.Utf8.decodeLossy bytes)
    exact ⟨Text.Utf8.decodeLossy bytes, _, Text.Utf8.lossyText_iff.mpr rfl, htrimmed, h.run scope,
      fun filter world' hfilter scope' => hfilter.run_trimmed htrimmed scope'⟩

/-- A system with two programs: `/bin/cat` copies its input, and `/bin/bytes` writes these bytes. -/
structure CopySystem where
  bytes : List UInt8
  deriving DecidableEq, Repr

/-- The paths of the two programs. -/
def CopySystem.isProgram (path : String) : Bool := path = "/bin/cat" || path = "/bin/bytes"

instance : System CopySystem where
  build := .checked
  workingDirectory _ := none
  searchPath _ := "/bin"
  pathExists _ := CopySystem.isProgram
  isFile _ := CopySystem.isProgram
  readFile _ _ := none
  execute s path _ input :=
    if path = "/bin/cat" then .ended { output := input, errors := [], status := .exited 0 } s
    else if path = "/bin/bytes" then
      .ended { output := s.bytes, errors := [], status := .exited 0 } s
    else .notStarted

namespace CopySystem

def copy : Command := .named "/bin/cat" []

theorem programPath?_copy (world : CopySystem) :
    programPath? world "/bin/cat" = some "/bin/cat" := by
  show Lookup.find isProgram isProgram "/bin" "/bin/cat" = _
  decide +kernel

theorem copiesAt_copy (world : CopySystem) : copy.CopiesAt world :=
  fun _ => ⟨"/bin/cat", "/bin/cat", _, world, by decide, programPath?_copy world, rfl,
    ⟨rfl, fun _ => .inl rfl⟩, rfl⟩

theorem spares_copy (world : CopySystem) : copy.Spares world := by
  intro input
  have hkind : copy.kind = .external "/bin/cat" := by decide
  simp only [Command.run, hkind, runProgram, programPath?_copy]
  rfl

end CopySystem

open CopySystem in
/-- A text that ends in a wide blank, and bytes of a cut-off character, an overlong form and a
surrogate with blanks between them and behind, which are read and counted behind two copies. -/
theorem copied_text_stable_bytes :
    let world : CopySystem :=
      ⟨[0x61, 0xE2, 0x82, 0x20, 0xC0, 0x80, 0x20, 0xED, 0xA0, 0x80, 0x09, 0x0A]⟩
    let s : Session CopySystem := { world }
    let write : Command := .named "bytes" []
    copy.CopiesAt world ∧ write.Writes none world world.bytes ∧
      (copy.run (some "a \u3000") .empty world).result = .ok "a" ∧
      (write.run none .empty world).result = .ok "a\uFFFD \uFFFD\uFFFD \uFFFD\uFFFD\uFFFD" ∧
      (s.runPipeline [write, copy, copy, .named "wc" []]).result = .ok (.output "1 3 9") := by
  intro world s write
  have hwrites : write.Writes none world world.bytes :=
    ⟨"bytes", "/bin/bytes", _, world, by decide, by decide +kernel, rfl, ⟨rfl, fun _ => .inl rfl⟩,
      rfl⟩
  obtain ⟨hcopy, hread, hpipeline⟩ := copied_text_stable (σ := CopySystem)
  refine ⟨copiesAt_copy world, hwrites, ?_, ?_, ?_⟩
  · obtain ⟨trimmed, htrimmed, hrun⟩ := hcopy copy world (copiesAt_copy world) "a \u3000" .empty
    rw [hrun, htrimmed.eq]
    decide +kernel
  · obtain ⟨text, trimmed, htext, htrimmed, hrun, -⟩ := hread write none world _ hwrites .empty
    rw [hrun, htrimmed.eq, Text.Utf8.lossyText_iff.mp htext]
    decide +kernel
  · have hinsert := hpipeline s [write] [.named "wc" []] copy copy "/bin/cat" (by decide)
      fun _ _ _ _ _ _ => ⟨copiesAt_copy _, fun _ => spares_copy _⟩
    exact hinsert.trans (by decide +kernel)

end LineShell
