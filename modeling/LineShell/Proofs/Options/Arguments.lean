import LineShell.Options

/-!
# Arguments, one at a time

`Interface.takeAll` takes arguments from left to right. What it does with the first of them depends
on whether flags may still come: a name of a flag is taken alone or with its value, `--` ends the
flags, and after that every argument is an operand. A word that does not begin with a dash is an
operand before that too, except for one reserved word (`FirstOperand.read`).
-/

namespace LineShell.Options

/-- A word that stands for a flag where flags may come. -/
structure IsFlagWord (arg : String) : Prop where
  dash : arg.toList.head? = some '-'
  ne_dashes : arg ≠ "--"
  not_help : isHelpWord arg = false

instance (arg : String) : Decidable (IsFlagWord arg) :=
  decidable_of_iff (arg.toList.head? = some '-' ∧ arg ≠ "--" ∧ isHelpWord arg = false)
    ⟨fun h => ⟨h.1, h.2.1, h.2.2⟩, fun h => ⟨h.dash, h.ne_dashes, h.not_help⟩⟩

variable {α : Type}

/-- Flags may come: they have not been ended, and no usage text was asked for. -/
structure Cursor.IsOpen (c : Cursor α) : Prop where
  not_ended : c.ended = false
  not_helpAsked : c.helpAsked = false

namespace Interface

variable {i : Interface α} {c : Cursor α} {flag : Flag α} {arg : String}

theorem takeAll_nil : i.takeAll c [] = .ok c := by rw [takeAll]

theorem takeAll_switch {apply : α → α} (hopen : c.IsOpen) (harg : IsFlagWord arg)
    (hflag : i.flags.find? (·.isNamed arg) = some flag) (heffect : flag.effect = .switch apply)
    (rest : List String) :
    i.takeAll c (arg :: rest) = i.takeAll { c with settings := apply c.settings } rest := by
  rw [takeAll]
  simp only [hopen.not_ended, hopen.not_helpAsked, harg.not_help, harg.dash, harg.ne_dashes,
    hflag, heffect, Bool.not_false, Bool.true_and, Bool.false_eq_true, decide_true, if_true,
    if_false]

theorem takeAll_value {apply : String → α → Except String α} (hopen : c.IsOpen)
    (harg : IsFlagWord arg) (hflag : i.flags.find? (·.isNamed arg) = some flag)
    (heffect : flag.effect = .value apply) (value : String) (rest : List String) :
    i.takeAll c (arg :: value :: rest) =
      (takeValue c flag apply arg value).bind fun c => i.takeAll c rest := by
  rw [takeAll]
  simp only [hopen.not_ended, hopen.not_helpAsked, harg.not_help, harg.dash, harg.ne_dashes,
    hflag, heffect, Bool.not_false, Bool.true_and, Bool.false_eq_true, decide_true, if_true,
    if_false]
  cases takeValue c flag apply arg value <;> rfl

/-- A value that is taken changes the settings and is remembered, and that is all. -/
theorem eq_of_takeValue {apply : String → α → Except String α} {value : String} {c' : Cursor α}
    (h : takeValue c flag apply arg value = .ok c') :
    ∃ settings, apply value c.settings = .ok settings ∧
      c' = { c with settings, given := flag.long :: c.given } := by
  unfold takeValue at h
  split at h
  · cases h
  · split at h
    · rename_i settings happly
      exact ⟨settings, happly, (Except.ok.inj h).symm⟩
    · cases h

theorem takeAll_dashes (h : c.ended = false) (rest : List String) :
    i.takeAll c ("--" :: rest) = i.takeAll { c with ended := true } rest := by
  have hhelp : isHelpWord "--" = false := rfl
  have hdash : "--".toList.head? = some '-' := rfl
  rw [takeAll]
  simp only [h, hhelp, hdash, Bool.and_false, Bool.not_false, Bool.true_and, Bool.false_eq_true,
    decide_true, if_true, if_false]

theorem takeAll_operand (h : c.ended = true) (arg : String) (rest : List String) :
    i.takeAll c (arg :: rest) =
      (i.takeOperand c arg).bind fun c => i.takeAll c rest := by
  rw [takeAll]
  simp only [h, Bool.not_true, Bool.false_and, Bool.false_eq_true, if_false]
  cases i.takeOperand c arg <;> rfl

/-! ## Words without a dash -/

theorem isHelpWord_of_no_dash (hdash : arg.toList.head? ≠ some '-') :
    isHelpWord arg = decide (arg = "help") := by
  have hlong : arg ≠ "--help" := by
    rintro rfl
    exact hdash rfl
  simp [isHelpWord, hlong]

/-- Flags begin with a dash, so one word is left that is no operand. -/
theorem takeAll_word (hdash : arg.toList.head? ≠ some '-') (hhelp : arg ≠ "help")
    (rest : List String) :
    i.takeAll c (arg :: rest) = (i.takeOperand c arg).bind fun c => i.takeAll c rest := by
  rw [takeAll, isHelpWord_of_no_dash hdash]
  simp only [hhelp, hdash, decide_false, Bool.and_false, Bool.false_eq_true, if_false]
  cases i.takeOperand c arg <;> rfl

/-- The first operand of an interface that requires no other one. -/
def FirstOperand (i : Interface α) (operand : Operand α) : Prop :=
  ∃ others, i.operands = .each (operand :: others) ∧ ∀ o ∈ others, o.required = false

theorem FirstOperand.read {operand : Operand α} (h : i.FirstOperand operand)
    (hdash : arg.toList.head? ≠ some '-') (defaults : α) :
    i.read defaults [arg] =
      if arg = "help" then .ok .help else .ok (.settings (operand.store arg defaults)) := by
  obtain ⟨others, hoperands, hothers⟩ := h
  by_cases hhelp : arg = "help"
  · have htake : i.takeAll { settings := defaults } [arg] =
        .ok { settings := defaults, helpAsked := true } := by
      rw [takeAll, isHelpWord_of_no_dash hdash, hhelp]
      simp only [decide_true, Bool.not_false, Bool.and_true, if_true, takeAll_nil]
    rw [if_pos hhelp, Interface.read, htake]
    rfl
  · rw [if_neg hhelp]
    have hmissing : i.missingOperands 1 = [] := by
      simp only [missingOperands, hoperands, List.drop_succ_cons, List.drop_zero,
        List.map_eq_nil_iff, List.filter_eq_nil_iff]
      intro o ho
      simp [hothers o ho]
    have htake : i.takeAll { settings := defaults } [arg] =
        .ok { settings := operand.store arg defaults, taken := 1 } := by
      have hone : i.takeOperand { settings := defaults } arg =
          .ok { settings := operand.store arg defaults, taken := 1 } := by
        rw [takeOperand, hoperands]
        rfl
      rw [takeAll_word hdash hhelp, hone]
      show i.takeAll _ [] = _
      exact takeAll_nil
    rw [Interface.read, htake]
    simp only [hmissing, Bool.false_eq_true, if_false]

end Interface

end LineShell.Options
