import LineShell.Sandbox
import LineShell.Stage
import Mathlib.Data.List.Basic

/-!
# Vertical bars in what stages write

No built-in command makes up a vertical bar. What a stage writes has at most as many of them as its
arguments and its input together, as long as it reads no file and runs no program
(`bars_run_le`, for the system in which there are none).

1. Usage texts have no bars, because no interface mentions one (`bars_usage`).
2. `grep` leaves lines out and puts only dashes between them (`totalBars_select_le`), and cutting a
   text into lines loses no bar and adds none (`totalBars_lines`).
3. `wc` writes digits.
-/

namespace LineShell

/-- The number of vertical bars in a text. -/
def bars (s : String) : Nat := s.toList.count '|'

/-- The number of vertical bars in several texts. -/
def totalBars : List String → Nat
  | [] => 0
  | s :: texts => bars s + totalBars texts

@[simp] theorem bars_empty : bars "" = 0 := rfl

@[simp] theorem bars_append (s t : String) : bars (s ++ t) = bars s + bars t := by
  rw [bars, String.toList_append, List.count_append, bars, bars]

theorem bars_ofList (cs : List Char) : bars (String.ofList cs) = cs.count '|' := by
  rw [bars, String.toList_ofList]

/-- For texts that are written out: their characters are looked at, not their bytes. -/
theorem bars_ofList_eq_zero {cs : List Char} (h : cs.count '|' = 0) :
    bars (String.ofList cs) = 0 := by
  rw [bars_ofList, h]

@[simp] theorem totalBars_nil : totalBars [] = 0 := rfl

@[simp] theorem totalBars_cons (s : String) (texts : List String) :
    totalBars (s :: texts) = bars s + totalBars texts := rfl

@[simp] theorem totalBars_append (texts texts' : List String) :
    totalBars (texts ++ texts') = totalBars texts + totalBars texts' := by
  induction texts with
  | nil => rw [List.nil_append, totalBars_nil, Nat.zero_add]
  | cons t texts ih =>
    rw [List.cons_append, totalBars_cons, totalBars_cons, ih, Nat.add_assoc]

theorem bars_intercalate {sep : String} (hsep : bars sep = 0) (texts : List String) :
    bars (sep.intercalate texts) = totalBars texts := by
  induction texts with
  | nil => rw [String.intercalate_nil]; rfl
  | cons t texts ih =>
    cases texts with
    | nil => rw [String.intercalate_singleton, totalBars_cons, totalBars_nil, Nat.add_zero]
    | cons u texts =>
      rw [String.intercalate_cons_cons, bars_append, bars_append, hsep, Nat.add_zero, ih,
        ← totalBars_cons]

theorem bars_unwords (texts : List String) : bars (Text.unwords texts) = totalBars texts :=
  bars_intercalate (by decide) texts

theorem bars_unlines (texts : List String) : bars (Text.unlines texts) = totalBars texts :=
  bars_intercalate (by decide) texts

theorem bars_join (texts : List String) : bars (String.join texts) = totalBars texts := by
  induction texts with
  | nil => rfl
  | cons t texts ih => rw [String.join_cons, bars_append, totalBars_cons, ih]

theorem totalBars_map_append {s : String} (hs : bars s = 0) (texts : List String) :
    totalBars (texts.map (· ++ s)) = totalBars texts := by
  induction texts with
  | nil => rfl
  | cons t texts ih =>
    rw [List.map_cons, totalBars_cons, bars_append, hs, Nat.add_zero, ih, totalBars_cons]

/-! ## Usage texts -/

theorem totalBars_splitAt (sep : Char) (hsep : sep ≠ '|') (s : String) :
    totalBars (Text.splitAt sep s) = bars s := by
  rw [bars, Text.splitAt]
  generalize s.toList = cs
  induction cs with
  | nil => rfl
  | cons c cs ih =>
    by_cases hc : c = sep
    · subst hc
      rw [Text.splitChars, if_pos rfl, List.map_cons, totalBars_cons, ih,
        List.count_cons_of_ne hsep, String.ofList_nil, bars_empty, Nat.zero_add]
    · rw [Text.splitChars, if_neg hc]
      cases hs : Text.splitChars sep cs with
      | nil => exact absurd hs (Text.splitChars_ne_nil sep cs)
      | cons piece pieces =>
        rw [hs, List.map_cons, totalBars_cons, bars, String.toList_ofList] at ih
        simp only [List.map_cons, totalBars_cons, bars, String.toList_ofList, List.count_cons]
        omega

theorem bars_trimEnd_le (s : String) : bars (Text.trimEnd s) ≤ bars s := by
  rw [bars, bars, Text.trimEnd, String.toList_ofList]
  apply List.Sublist.count_le
  generalize s.toList = cs
  induction cs with
  | nil => exact List.Sublist.refl _
  | cons c cs ih =>
    rw [Text.dropBlankEnd]
    split
    · split_ifs with hc
      · exact List.nil_sublist _
      · exact (List.nil_sublist cs).cons_cons c
    · rename_i d ds hd
      rw [hd] at ih
      exact ih.cons_cons c

namespace Options

theorem bars_padding (n : Nat) : bars (padding n) = 0 := by
  rw [bars, padding, String.toList_ofList, List.count_replicate, if_neg (by decide)]

theorem totalBars_wrapWords (line : String) (words : List String) :
    totalBars (wrapWords line words) = bars line + totalBars words := by
  fun_induction wrapWords line words with
  | case1 line => rfl
  | case2 line word rest h ih =>
    rw [totalBars_cons, ih, bars_append, bars_padding, totalBars_cons, Nat.zero_add]
  | case3 line word rest h ih =>
    rw [ih, bars_append, bars_append, totalBars_cons, Nat.add_assoc]
    rfl

theorem totalBars_entryLines (name about : String) :
    totalBars (entryLines name about) = bars name + bars about := by
  have hsplit := totalBars_splitAt ' ' (by decide) about
  have hhead : bars ("  " ++ name) = bars name := by
    rw [bars_append]
    exact Nat.zero_add _
  unfold entryLines
  cases h : Text.splitAt ' ' about with
  | nil =>
    rw [h, totalBars_nil] at hsplit
    simp only [totalBars_cons, totalBars_nil, hhead, ← hsplit]
  | cons word rest =>
    rw [h, totalBars_cons] at hsplit
    simp only
    split_ifs
    · rw [totalBars_wrapWords, bars_append, bars_append, bars_padding, hhead, ← hsplit]
      omega
    · rw [totalBars_cons, totalBars_wrapWords, hhead, bars_append, bars_padding, ← hsplit]
      omega

/-- No text of the interface has a vertical bar. -/
structure Interface.Barless {α : Type} (i : Interface α) : Prop where
  name : bars i.name = 0
  about : bars i.about = 0
  flags : ∀ f ∈ i.flags, bars f.long = 0 ∧ f.short ≠ some '|' ∧ bars f.about = 0
  operands : match i.operands with
    | .each operands => ∀ o ∈ operands, bars o.name = 0 ∧ bars o.about = 0
    | .any name _ => bars name = 0

variable {α : Type}

theorem bars_shortName {f : Flag α} (h : f.short ≠ some '|') {short : String}
    (hshort : f.shortName? = some short) : bars short = 0 := by
  obtain ⟨c, hc, rfl⟩ := Option.map_eq_some_iff.mp hshort
  have hne : c ≠ '|' := fun h' => h (h' ▸ hc)
  rw [bars_append, bars, bars, String.toList_singleton, List.count_singleton,
    if_neg (by simpa using hne)]
  rfl

theorem bars_longName (f : Flag α) : bars f.longName = bars f.long := by
  rw [Flag.longName, bars_append]
  exact Nat.zero_add _

theorem bars_flag_shape {f : Flag α} (hlong : bars f.long = 0)
    (hshort : f.short ≠ some '|') : bars f.shape = 0 := by
  have hname : bars (f.shortName?.getD f.longName) = 0 := by
    cases h : f.shortName? with
    | none => rw [Option.getD_none, bars_longName, hlong]
    | some short => exact bars_shortName hshort h
  unfold Flag.shape
  split <;> simp only [bars_append, hname, hlong] <;> decide

theorem bars_entryName {f : Flag α} (hlong : bars f.long = 0)
    (hshort : f.short ≠ some '|') : bars f.entryName = 0 := by
  unfold Flag.entryName
  split
  · rename_i h
    simp only [bars_append, bars_shortName hshort h, bars_longName, hlong]
    decide
  · rw [bars_longName, hlong]

theorem bars_operand_shape {o : Operand α} (h : bars o.name = 0) : bars o.shape = 0 := by
  unfold Operand.shape
  split_ifs <;> simp only [bars_append, h] <;> decide

theorem totalBars_eq_zero {texts : List String} (h : ∀ t ∈ texts, bars t = 0) :
    totalBars texts = 0 := by
  induction texts with
  | nil => rfl
  | cons t texts ih =>
    rw [totalBars_cons, h t List.mem_cons_self, ih fun u hu => h u (List.mem_cons_of_mem t hu)]

theorem totalBars_flatMap_eq_zero {ι : Type} {xs : List ι} {f : ι → List String}
    (h : ∀ x ∈ xs, totalBars (f x) = 0) : totalBars (xs.flatMap f) = 0 := by
  induction xs with
  | nil => rfl
  | cons x xs ih =>
    rw [List.flatMap_cons, totalBars_append, h x List.mem_cons_self,
      ih fun y hy => h y (List.mem_cons_of_mem x hy)]

theorem totalBars_map_eq_zero {ι : Type} {xs : List ι} {f : ι → String}
    (h : ∀ x ∈ xs, bars (f x) = 0) : totalBars (xs.map f) = 0 :=
  totalBars_eq_zero fun t ht => by
    obtain ⟨x, hx, rfl⟩ := List.mem_map.mp ht
    exact h x hx

theorem Interface.Barless.operand_texts {i : Interface α} (h : i.Barless) :
    totalBars i.operands.shapes = 0 ∧ totalBars i.operands.table = 0 := by
  have hoperands := h.operands
  cases ho : i.operands with
  | any name store =>
    rw [ho] at hoperands
    refine ⟨?_, rfl⟩
    simp only [Operands.shapes, totalBars_cons, totalBars_nil, bars_append]
    rw [hoperands]
    decide
  | each operands =>
    rw [ho] at hoperands
    cases operands with
    | nil => exact ⟨rfl, rfl⟩
    | cons o os =>
      have hshapes := totalBars_map_eq_zero fun o ho => bars_operand_shape (hoperands o ho).1
      have htable : totalBars ((o :: os).flatMap fun o => entryLines o.name o.about) = 0 :=
        totalBars_flatMap_eq_zero fun o ho => by
          rw [totalBars_entryLines, (hoperands o ho).1, (hoperands o ho).2]
      constructor
      · show totalBars ("[--]" :: (o :: os).map (·.shape)) = 0
        rw [totalBars_cons, hshapes]
        decide
      · show totalBars (_ :: (o :: os).flatMap _ ++ [""]) = 0
        rw [List.cons_append, totalBars_cons, totalBars_append, htable]
        decide

theorem bars_usage {i : Interface α} (h : i.Barless) : bars i.usage = 0 := by
  obtain ⟨hshapes, htable⟩ := h.operand_texts
  have hflagShapes := totalBars_map_eq_zero fun f hf =>
    bars_flag_shape (h.flags f hf).1 (h.flags f hf).2.1
  have hflags : totalBars (i.flags.flatMap fun f => entryLines f.entryName f.about) = 0 :=
    totalBars_flatMap_eq_zero fun f hf => by
      obtain ⟨hlong, hshort, habout⟩ := h.flags f hf
      rw [totalBars_entryLines, bars_entryName hlong hshort, habout]
  have hhelp : totalBars (entryLines "--help, help" "display usage information") = 0 := by
    rw [totalBars_entryLines]
    decide
  rw [Interface.usage, bars_join, totalBars_map_append (by decide)]
  simp only [totalBars_append, totalBars_cons, totalBars_nil, bars_unwords, List.cons_append,
    hshapes, htable, hflagShapes, hflags, hhelp, h.name, h.about]
  decide

end Options

/-! ## Lines and counts -/

theorem totalBars_linesFrom (held cs : List Char) :
    totalBars ((Text.linesFrom '\n' '\r' held cs).map String.ofList) =
      held.count '|' + cs.count '|' := by
  induction cs generalizing held with
  | nil =>
    rw [Text.linesFrom]
    split_ifs with h
    · rw [List.isEmpty_iff.mp h]
      rfl
    · rw [List.map_singleton, totalBars_cons, totalBars_nil, bars_ofList, List.count_reverse,
        List.count_nil]
  | cons c cs ih =>
    rw [Text.linesFrom]
    split_ifs with hc
    · subst hc
      have hdrop : (Text.dropReturn '\r' held).count '|' = held.count '|' := by
        cases held with
        | nil => rfl
        | cons d held =>
          rw [Text.dropReturn]
          split_ifs with hd
          · rw [hd, List.count_cons_of_ne (by decide)]
          · rfl
      rw [List.map_cons, totalBars_cons, bars_ofList, ih, List.count_reverse, hdrop,
        List.count_nil, Nat.zero_add, List.count_cons_of_ne (by decide)]
    · rw [ih, List.count_cons, List.count_cons]
      omega

theorem totalBars_lines (s : String) : totalBars (Text.lines s) = bars s := by
  rw [Text.lines, totalBars_linesFrom, List.count_nil, Nat.zero_add, bars]

theorem bars_toString (n : Nat) : bars (toString n) = 0 := by
  apply List.count_eq_zero.mpr
  intro hin
  rw [Nat.toString_eq_repr, Nat.toList_repr] at hin
  exact absurd (Nat.isDigit_of_mem_toDigits (by decide) (by decide) hin) (by decide)

namespace Builtin

theorem totalBars_marked_le {separator : Option String} (hsep : totalBars separator.toList = 0)
    (started gap : Bool) (xs : List (String × Bool)) :
    totalBars (marked separator started gap xs) ≤ totalBars (xs.map Prod.fst) := by
  fun_induction marked separator started gap xs with
  | case1 => exact Nat.le_refl _
  | case2 started gap x xs ih =>
    rw [List.map_cons, totalBars_cons]
    exact Nat.le_trans ih (Nat.le_add_left _ _)
  | case3 started gap x xs ih =>
    have hdue : totalBars (if (started && gap) = true then separator.toList else []) = 0 := by
      split_ifs
      · exact hsep
      · rfl
    rw [totalBars_append, hdue, Nat.zero_add, totalBars_cons, List.map_cons, totalBars_cons]
    exact Nat.add_le_add_left ih _

theorem totalBars_zip_le (texts : List String) (flags : List Bool) :
    totalBars ((texts.zip flags).map Prod.fst) ≤ totalBars texts := by
  induction texts generalizing flags with
  | nil => exact Nat.le_refl _
  | cons t texts ih =>
    cases flags with
    | nil => exact Nat.zero_le _
    | cons flag flags => exact Nat.add_le_add_left (ih flags) _

theorem totalBars_select_le {o : Overflow} {isMatch : String → Bool} {after : Nat}
    {lines selected : List String} (h : select o isMatch after lines = .ok selected) :
    totalBars selected ≤ totalBars lines := by
  have hsep : totalBars (if after = 0 then none else some "--").toList = 0 := by
    split_ifs <;> rfl
  unfold select at h
  cases hset : setWindows o isMatch after 0 (List.replicate lines.length false) lines with
  | error fault => rw [hset] at h; cases h
  | ok flags =>
    rw [hset, Except.map, Except.ok.injEq] at h
    rw [← h]
    exact Nat.le_trans (totalBars_marked_le hsep false false _) (totalBars_zip_le lines flags)

end Builtin

/-! ## Stages without files and programs -/

/-- The state of a system that has neither files nor programs. -/
structure EmptySystem where
  deriving DecidableEq, Repr

instance : System EmptySystem where
  build := .checked
  workingDirectory _ := none
  searchPath _ := ""
  pathExists _ _ := false
  isFile _ _ := false
  readFile _ _ := none
  execute _ _ _ _ := .notStarted

namespace Builtin

variable {text : String}

/-- What a built-in command writes is its usage text, or comes from doing its job. -/
theorem bars_run_le {α : Type} {interface : Options.Interface α} (hi : interface.Barless)
    {defaults : α} {args : List String} {execute : α → Except CommandError String} {n : Nat}
    (hexecute : ∀ settings, execute settings = .ok text → bars text ≤ n)
    (h : run interface defaults args execute = .ok text) : bars text ≤ n := by
  unfold run at h
  split at h
  · cases h
  · rw [Except.ok.injEq] at h
    have hle := bars_trimEnd_le interface.usage
    rw [Options.bars_usage hi, h] at hle
    exact Nat.le_trans hle (Nat.zero_le n)
  · exact hexecute _ h

theorem source_emptySystem {command : String} {world : EmptySystem} {file input : Option String}
    (h : source command world file input = .ok text) : input = some text := by
  cases file with
  | some file => cases h
  | none =>
    cases input with
    | none => cases h
    | some input =>
      rw [source, Except.ok.injEq] at h
      rw [h]

theorem bars_source {command : String} {world : EmptySystem} {file input : Option String}
    (h : source command world file input = .ok text) : bars text = bars (input.getD "") := by
  rw [source_emptySystem h]
  rfl

theorem catInterface_barless : catInterface.Barless where
  name := bars_ofList_eq_zero (by decide)
  about := bars_ofList_eq_zero (by decide)
  flags := fun f hf => absurd hf List.not_mem_nil
  operands := by
    simp only [catInterface, fileOperand, List.forall_mem_singleton]
    refine ⟨?_, ?_⟩ <;> exact bars_ofList_eq_zero (by decide)

theorem wcInterface_barless : wcInterface.Barless where
  name := bars_ofList_eq_zero (by decide)
  about := bars_ofList_eq_zero (by decide)
  flags := fun f hf => absurd hf List.not_mem_nil
  operands := by
    simp only [wcInterface, fileOperand, List.forall_mem_singleton]
    refine ⟨?_, ?_⟩ <;> exact bars_ofList_eq_zero (by decide)

theorem pwdInterface_barless : pwdInterface.Barless where
  name := bars_ofList_eq_zero (by decide)
  about := bars_ofList_eq_zero (by decide)
  flags := fun f hf => absurd hf List.not_mem_nil
  operands := bars_ofList_eq_zero (by decide)

theorem exitInterface_barless : exitInterface.Barless where
  name := bars_ofList_eq_zero (by decide)
  about := bars_ofList_eq_zero (by decide)
  flags := fun f hf => absurd hf List.not_mem_nil
  operands := fun o ho => absurd ho List.not_mem_nil

theorem grepInterface_barless : Grep.interface.Barless where
  name := bars_ofList_eq_zero (by decide)
  about := bars_ofList_eq_zero (by decide)
  flags := by
    simp only [Grep.interface, List.forall_mem_cons]
    refine ⟨⟨?_, by decide, ?_⟩, ⟨?_, by decide, ?_⟩, ⟨?_, by decide, ?_⟩,
      fun f hf => absurd hf List.not_mem_nil⟩ <;> exact bars_ofList_eq_zero (by decide)
  operands := by
    simp only [Grep.interface, List.forall_mem_cons]
    refine ⟨⟨?_, ?_⟩, ⟨?_, ?_⟩, fun o ho => absurd ho List.not_mem_nil⟩ <;>
      exact bars_ofList_eq_zero (by decide)

theorem bars_showCounts (counts : Nat × Nat × Nat) : bars (showCounts counts) = 0 := by
  simp only [showCounts, bars_unwords, totalBars_cons, totalBars_nil, bars_toString]

theorem bars_grep_execute_le {world : EmptySystem} {input : Option String} {g : Grep}
    (h : g.execute world input = .ok text) : bars text ≤ bars (input.getD "") := by
  unfold Grep.execute at h
  split at h
  · cases h
  · cases hs : source "grep" world g.file input with
    | error e => rw [hs] at h; cases h
    | ok found =>
      simp only [hs] at h
      split at h
      · cases h
      · rename_i selected hselect
        rw [Except.ok.injEq] at h
        rw [← h, bars_unlines, ← bars_source hs, ← totalBars_lines]
        exact totalBars_select_le hselect

end Builtin

/-- **No stage makes up a bar.** Without files and programs, what a stage writes has at most the
bars of its arguments and of its input. -/
theorem bars_run_le {c : Command} {input : Option String} {scope : Scope} {world : EmptySystem}
    {text : String} (h : (c.run input scope world).result = .ok text) :
    bars text ≤ totalBars c.args + bars (input.getD "") := by
  -- every kind but `echo` is bounded by the input alone
  suffices hinput : c.kind ≠ .echo → bars text ≤ bars (input.getD "") by
    by_cases hkind : c.kind = .echo
    · simp only [Command.run, hkind, Except.ok.injEq] at h
      rw [← h, bars_unwords]
      exact Nat.le_add_right _ _
    · exact Nat.le_trans (hinput hkind) (Nat.le_add_left _ _)
  intro hkind
  cases hk : c.kind with
  | echo => exact absurd hk hkind
  | assign =>
    simp only [Command.run, hk] at h
    split at h
    · rw [Except.ok.injEq] at h
      rw [← h]
      exact Nat.zero_le _
    · cases h
  | cat =>
    simp only [Command.run, hk] at h
    exact Builtin.bars_run_le Builtin.catInterface_barless
      (fun file hfile => Nat.le_of_eq (Builtin.bars_source hfile)) h
  | wc =>
    simp only [Command.run, hk] at h
    refine Builtin.bars_run_le Builtin.wcInterface_barless (fun file hfile => ?_) h
    cases hs : Builtin.source "wc" world file input with
    | error e => rw [hs] at hfile; cases hfile
    | ok found =>
      rw [hs, Except.map, Except.ok.injEq] at hfile
      rw [← hfile, Builtin.bars_showCounts]
      exact Nat.zero_le _
  | pwd =>
    simp only [Command.run, hk] at h
    exact Builtin.bars_run_le Builtin.pwdInterface_barless (fun _ hdir => by cases hdir) h
  | exit =>
    simp only [Command.run, hk] at h
    refine Builtin.bars_run_le Builtin.exitInterface_barless (fun _ hexit => ?_) h
    rw [Except.ok.injEq] at hexit
    rw [← hexit]
    exact Nat.zero_le _
  | grep =>
    simp only [Command.run, hk] at h
    exact Builtin.bars_run_le Builtin.grepInterface_barless
      (fun g hg => Builtin.bars_grep_execute_le hg) h
  | external name =>
    simp only [Command.run, hk, runProgram] at h
    split at h
    · cases h
    · cases h

end LineShell
