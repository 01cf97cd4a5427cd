import LineShell.Proofs.Pattern.Steps

/-!
# Patterns enclosed in a group

The text of a pattern is put between `\b(` and `)\b`. A reader inside the group does what it would
do on the pattern alone, with one more group below its stack (`step_within`). It can only part from
it at the end: at a parenthesis that closes no group of the pattern (`MeetsStray`), or by taking the
parenthesis of the ending for something else, and then the group is never closed (`Unclosed`). So
unless the text leaves the group, the enclosed pattern is valid only if the pattern is, and is the
same expression between two conditions (`compile_enclosed`).
-/

namespace LineShell.Pattern

namespace State

variable {s t : State} {cs rest : List Char} {c : Char}

/-! ## A reader inside further groups -/

/-- The state of a reader that is inside further groups, innermost first. -/
def within (s : State) (below : List (Level × Flags)) : State :=
  { s with outer := s.outer ++ below }

variable (below : List (Level × Flags))

@[simp] theorem within_flags (s : State) : (s.within below).flags = s.flags := rfl

@[simp] theorem within_level (s : State) : (s.within below).level = s.level := rfl

theorem openNamed_within (s : State) (cs : List Char) :
    (s.within below).openNamed cs = (s.openNamed cs).map fun p => (p.1.within below, p.2) := by
  unfold openNamed
  cases groupName cs with
  | none => rfl
  | some p =>
    obtain ⟨name, rest⟩ := p
    change (if s.names.contains name then _ else _) =
      Option.map _ (if s.names.contains name then _ else _)
    split <;> rfl

theorem opening_within (s : State) (cs : List Char) :
    (s.within below).opening cs = (s.opening cs).map fun p => (p.1.within below, p.2) := by
  unfold opening
  rw [within_flags]
  split
  case h_1 | h_2 | h_3 | h_4 => rfl
  case h_5 | h_6 => exact openNamed_within below s _
  case h_7 inner _ _ _ _ _ _ _ =>
    cases s.flags.change true [] inner with
    | none => rfl
    | some p =>
      obtain ⟨flags, isDirective, rest⟩ := p
      cases isDirective <;> rfl
  case h_8 => rfl

/-- A reader inside further groups does the same steps, as long as it closes none of them. -/
theorem step_within (hc : c = ')' → s.outer ≠ []) :
    (s.within below).step c cs = (s.step c cs).map fun p => (p.1.within below, p.2) := by
  have hrepeat (least : Nat) (most : Option Nat) :
      (s.within below).repeatLast least most = (s.repeatLast least most).map (·.within below) := by
    unfold repeatLast
    rw [within_level, Option.map_map]
    rfl
  have hatom (atom : Atom) :
      (s.within below).addAtom atom = (s.addAtom atom).map (·.within below) := by
    cases atom with
    | literal c isByte =>
      rw [addAtom, addAtom, within_flags]
      split <;> rfl
    | set set cost => rfl
    | look condition => rfl
  unfold step
  split
  case h_1 => exact opening_within below s cs
  case h_2 =>
    obtain ⟨⟨level, flags⟩, outer, houter⟩ := List.exists_cons_of_ne_nil (hc rfl)
    unfold closing within
    rw [houter]
    rfl
  case h_3 => rfl
  case h_4 =>
    simp only [within_flags]
    cases s.flags.bracket cs <;> rfl
  case h_5 | h_6 | h_7 =>
    rw [hrepeat]
    cases s.repeatLast _ _ <;> rfl
  case h_8 =>
    rw [within_flags]
    cases s.flags.repeatRange cs with
    | none => rfl
    | some p =>
      change ((s.within below).repeatLast p.1 p.2.1).map _ = ((s.repeatLast p.1 p.2.1).map _).map _
      rw [hrepeat]
      cases s.repeatLast p.1 p.2.1 <;> rfl
  case h_9 =>
    rw [within_flags]
    cases s.flags.escape cs with
    | none => rfl
    | some p =>
      change ((s.within below).addAtom p.1).map _ = ((s.addAtom p.1).map _).map _
      rw [hatom]
      cases s.addAtom p.1 <;> rfl
  case h_10 =>
    simp only [within_flags]
    cases s.flags.dot <;> rfl
  case h_11 | h_12 => rfl
  case h_13 =>
    rw [hatom]
    cases s.addAtom _ <;> rfl

theorem step_outer (hc : c ≠ ')') (h : s.step c cs = some (t, rest)) : s.outer <:+ t.outer := by
  have hwithin : (within { s with outer := [] } s.outer).step c cs = _ :=
    step_within s.outer fun heq => absurd heq hc
  change s.step c cs = _ at hwithin
  rw [h] at hwithin
  obtain ⟨p, -, hp⟩ := Option.map_eq_some_iff.mp hwithin.symm
  obtain ⟨rfl, -⟩ := Prod.mk.inj hp
  exact List.suffix_append _ _

theorem readAll_outer {n : Nat} (hcs : ')' ∉ cs) (h : s.readAll n cs = some t) :
    s.outer <:+ t.outer := by
  induction n generalizing s cs with
  | zero => cases h
  | succ n ih =>
    have hskip := skip_suffix s.flags cs
    unfold readAll at h
    split at h
    case h_1 =>
      obtain rfl := Option.some.inj h
      exact List.suffix_refl _
    case h_2 c ds hds =>
      obtain ⟨⟨u, after⟩, hu, h⟩ := Option.bind_eq_some_iff.mp h
      rw [hds] at hskip
      have hc : c ≠ ')' := by
        rintro rfl
        exact hcs (hskip.mem List.mem_cons_self)
      have hafter : ')' ∉ after := fun hmem =>
        hcs (hskip.mem (List.mem_cons_of_mem c ((step_suffix hu).mem hmem)))
      exact (step_outer hc hu).trans (ih hafter h)

/-! ## Parentheses that close no group -/

/-- A reader in the state `s` comes upon a parenthesis in `cs` that closes no group. -/
inductive MeetsStray : State → List Char → Prop where
  | here {s : State} {cs rest : List Char} (hskip : s.flags.skip cs = ')' :: rest)
      (houter : s.outer = []) : MeetsStray s cs
  | later {s t : State} {c : Char} {cs ds rest : List Char} (hskip : s.flags.skip cs = c :: ds)
      (hstep : s.step c ds = some (t, rest)) (hrest : MeetsStray t rest) : MeetsStray s cs

theorem MeetsStray.readAll_eq_none (h : MeetsStray s cs) (n : Nat) : s.readAll n cs = none := by
  induction h generalizing n with
  | here hskip houter =>
    cases n with
    | zero => rfl
    | succ n => simp [readAll, hskip, step, closing, houter]
  | later hskip hstep hrest ih =>
    cases n with
    | zero => rfl
    | succ n => simp [readAll, hskip, hstep, ih]

/-! ## Reading up to the end of the group -/

/-- The state after the group of a pattern is closed. -/
def closed (base : Level × Flags) (u : State) : State :=
  { u with level := base.1.add u.level.content.group, flags := base.2, outer := [] }

/-- However the reader goes on, a group stays open. -/
def Unclosed (s : State) (cs : List Char) : Prop :=
  ∀ (n : Nat) (t : State), s.readAll n cs = some t → t.outer ≠ []

/-- Without its parenthesis the ending closes no group. -/
theorem unclosed_of_suffix (hs : s.outer ≠ []) (hcs : cs <:+ afterGroup) : s.Unclosed cs := by
  intro n t h ht
  have hmem : ')' ∉ cs := fun hmem => absurd (hcs.mem hmem) (by decide)
  have hsuffix := readAll_outer hmem h
  rw [ht] at hsuffix
  exact hs (List.suffix_nil.mp hsuffix)

/-- An opening brace in front of the ending is a repetition without a number. -/
theorem unclosed_of_brace (h : s.flags.skip cs = []) : s.Unclosed ('{' :: cs ++ ending) := by
  intro n t hread
  cases n with
  | zero => cases hread
  | succ n =>
    have hskip : s.flags.skip ('{' :: (cs ++ ending)) = '{' :: (cs ++ ending) := by
      unfold Flags.skip
      split <;> rfl
    unfold readAll at hread
    rw [List.cons_append, hskip] at hread
    simp only [step, repeatRange_ending h, Option.bind_eq_bind, Option.bind_none] at hread
    cases hread

variable {base : Level × Flags} {u : State}

theorem within_outer_ne_nil (s : State) : (s.within [base]).outer ≠ [] := by
  unfold within
  simp

/-- **A step inside the group** is a step of the pattern alone, unless the ending is lost. -/
theorem step_enclosed (hc : c = ')' → s.outer ≠ [])
    (h : (s.within [base]).step c (cs ++ ending) = some (u, rest)) :
    (∃ v after, s.step c cs = some (v, after) ∧ u = v.within [base] ∧ rest = after ++ ending) ∨
      u.Unclosed rest := by
  rw [step_within _ hc] at h
  obtain ⟨⟨v, rest'⟩, hv, hp⟩ := Option.map_eq_some_iff.mp h
  obtain ⟨rfl, rfl⟩ := Prod.mk.inj hp
  rcases suffix_append_cases (step_suffix hv) with ⟨after, rfl, -⟩ | hlost
  · rcases step_front hv with hstep | ⟨inner, rfl, hinner⟩
    · exact .inl ⟨v, after, hstep, rfl, rfl⟩
    · exact .inr (unclosed_of_brace (s := v.within [base]) hinner)
  · exact .inr (unclosed_of_suffix (within_outer_ne_nil v) hlost)

/-- **The parenthesis of the ending** closes the group if the pattern has closed its own. -/
theorem step_ending (h : (s.within [base]).step ')' afterGroup = some (u, rest)) :
    (s.outer = [] ∧ u = closed base s ∧ rest = afterGroup) ∨ u.Unclosed rest := by
  by_cases houter : s.outer = []
  · have hclosed : (s.within [base]).step ')' afterGroup = some (closed base s, afterGroup) := by
      simp [step, closing, within, closed, houter]
    obtain ⟨rfl, rfl⟩ := Prod.mk.inj (Option.some.inj (h.symm.trans hclosed))
    exact .inl ⟨houter, rfl, rfl⟩
  · rw [step_within _ fun _ => houter] at h
    obtain ⟨⟨v, rest'⟩, hv, hp⟩ := Option.map_eq_some_iff.mp h
    obtain ⟨rfl, rfl⟩ := Prod.mk.inj hp
    exact .inr (unclosed_of_suffix (within_outer_ne_nil v) (step_suffix hv))

/-- **A run inside the group** that closes it is a run of the pattern alone, by induction on the
rounds; what follows is read from behind the group. -/
theorem readAll_within {n : Nat} (h : (s.within [base]).readAll n (cs ++ ending) = some t)
    (ht : t.outer = []) (hstray : ¬MeetsStray s cs) :
    ∃ u k, (∀ m, cs.length < m → s.readAll m cs = some u) ∧ u.outer = [] ∧
      (closed base u).readAll k afterGroup = some t := by
  induction n generalizing s cs with
  | zero => cases h
  | succ n ih =>
    unfold readAll at h
    rw [within_flags] at h
    rcases skip_append s.flags cs with hskip | hskip
    · rw [hskip] at h
      cases hds : s.flags.skip cs with
      | nil =>
        rw [hds] at h
        obtain ⟨⟨u, rest⟩, hu, h⟩ := Option.bind_eq_some_iff.mp h
        rcases step_ending hu with ⟨houter, rfl, rfl⟩ | hunclosed
        · refine ⟨s, n, fun m hm => ?_, houter, h⟩
          obtain ⟨m, rfl⟩ : ∃ k, m = k + 1 := ⟨m - 1, by omega⟩
          simp only [readAll, hds]
        · exact absurd ht (hunclosed n t h)
      | cons c ds =>
        rw [hds] at h
        obtain ⟨⟨u, rest⟩, hu, h⟩ := Option.bind_eq_some_iff.mp h
        have hc : c = ')' → s.outer ≠ [] := by
          rintro rfl houter
          exact hstray (.here hds houter)
        rcases step_enclosed hc hu with ⟨v, after, hv, rfl, rfl⟩ | hunclosed
        · have hlength := skip_length_le s.flags cs
          have hle := (step_suffix hv).length_le
          rw [hds, List.length_cons] at hlength
          obtain ⟨u, k, hread, hu⟩ := ih h fun hmeets => hstray (.later hds hv hmeets)
          refine ⟨u, k, fun m hm => ?_, hu⟩
          obtain ⟨m, rfl⟩ : ∃ k, m = k + 1 := ⟨m - 1, by omega⟩
          have hread := hread m (by omega)
          simp only [readAll, hds, hv, hread, Option.bind_eq_bind, Option.bind_some]
        · exact absurd ht (hunclosed n t h)
    · -- A comment at the end of the pattern takes the ending too.
      rw [hskip] at h
      obtain rfl := Option.some.inj h
      exact absurd ht (within_outer_ne_nil s)

/-! ## What is written around a pattern -/

/-- The state in which a pattern is read. -/
def start (ignoreCase : Bool) : State := { flags := { ignoreCase } }

/-- The item that `\b` stands for. -/
def boundary (s : State) : Part := .ofLook (s.flags.edge .boundary)

theorem skip_of_strict (h : s.flags.loose = false) (cs : List Char) : s.flags.skip cs = cs := by
  unfold Flags.skip
  rw [h]
  rfl

theorem opening_of_head (hloose : s.flags.loose = false) (hmark : cs.head? ≠ some '?') :
    s.opening cs = some (s.openGroup s.flags, cs) := by
  unfold opening
  rw [skip_of_strict hloose]
  split
  case h_8 => rfl
  all_goals exact absurd rfl hmark

theorem readAll_boundary {n : Nat} (hloose : s.flags.loose = false) (hbrace : cs.head? ≠ some '{') :
    s.readAll (n + 1) ('\\' :: 'b' :: cs) = (s.add s.boundary).readAll n cs := by
  have hescape : s.flags.escape ('b' :: cs) = some (.look (s.flags.edge .boundary), cs) := by
    change s.flags.boundaryEscape cs = _
    unfold Flags.boundaryEscape
    dsimp only
    split
    case h_1 => exact absurd rfl hbrace
    case h_2 => rfl
  rw [readAll, skip_of_strict hloose]
  simp only [step, hescape, Option.bind_eq_bind, Option.bind_some, addAtom, Option.map_some,
    boundary]

/-- What stands behind the group adds the condition once more. -/
theorem readAll_afterGroup {n : Nat} (hloose : s.flags.loose = false)
    (h : s.readAll n afterGroup = some t) : t = s.add s.boundary := by
  cases n with
  | zero => cases h
  | succ n =>
    rw [afterGroup, readAll_boundary hloose (by decide)] at h
    cases n with
    | zero => cases h
    | succ n =>
      rw [readAll, skip_nil] at h
      exact (Option.some.inj h).symm

theorem readAll_group {n : Nat} (hloose : s.flags.loose = false) (hmark : cs.head? ≠ some '?') :
    s.readAll (n + 1) ('(' :: cs) = (s.openGroup s.flags).readAll n cs := by
  rw [readAll, skip_of_strict hloose]
  simp only [step, opening_of_head hloose hmark, Option.bind_eq_bind, Option.bind_some]

end State

open State

/-- The condition that is written around a pattern. -/
def wordBoundary : Look := .edge .boundary .word

/-- The expression of a pattern between two conditions. -/
def Expr.bounded (e : Expr CharSet Look) : Expr CharSet Look :=
  .seq (.seq (.look wordBoundary) e) (.look wordBoundary)

/-- A group between two conditions. -/
def Part.bounded (p : Part) : Part :=
  (((Part.ofLook wordBoundary).append p.group).append (.ofLook wordBoundary)).deeper

theorem Part.depth_le_bounded (p : Part) : p.depth ≤ p.bounded.depth := by
  have hdepth : p.bounded.depth = max (max 0 (p.depth + 1)) 0 + 1 := rfl
  omega

theorem Part.cost_le_bounded (p : Part) : p.cost ≤ p.bounded.cost := by
  have hcost : p.bounded.cost = stateCost + (p.cost + 2 * stateCost) + stateCost := rfl
  omega

/-! ## Valid patterns -/

theorem compile_eq_some_iff {ignoreCase : Bool} {pattern : String} {e : Expr CharSet Look} :
    compile ignoreCase pattern = some e ↔
      ∃ t, (start ignoreCase).readAll (pattern.toList.length + 1) pattern.toList = some t ∧
        t.outer = [] ∧ t.level.content.depth ≤ maxDepth ∧
        t.level.content.cost + 8 * stateCost ≤ maxCost ∧ t.level.content.expr = e := by
  unfold compile
  rw [Option.bind_eq_bind, Option.bind_eq_some_iff]
  simp only [Option.ite_none_right_eq_some, Option.some.injEq, Bool.and_eq_true, decide_eq_true_eq,
    List.isEmpty_iff, and_assoc]
  rfl

/-- The text of a pattern does not stay in a group that is written around it: it starts with a
question mark, which then belongs to the opening parenthesis, or it has a parenthesis that closes no
group of its own. -/
def LeavesGroup (ignoreCase : Bool) (pattern : String) : Prop :=
  pattern.toList.head? = some '?' ∨ MeetsStray (start ignoreCase) pattern.toList

variable {ignoreCase : Bool} {pattern : String}

/-- Such a text is no pattern: nothing stands before the question mark that it could repeat, and no
group is open that the parenthesis could close. -/
theorem LeavesGroup.compile_eq_none (h : LeavesGroup ignoreCase pattern) :
    compile ignoreCase pattern = none := by
  have hread : (start ignoreCase).readAll (pattern.toList.length + 1) pattern.toList = none := by
    rcases h with hmark | hstray
    · obtain ⟨rest, hrest⟩ := List.head?_eq_some_iff.mp hmark
      rw [hrest, readAll, skip_of_strict rfl]
      rfl
    · exact hstray.readAll_eq_none _
  apply Option.eq_none_iff_forall_not_mem.mpr
  intro e he
  obtain ⟨t, ht, -⟩ := compile_eq_some_iff.mp he
  rw [hread] at ht
  cases ht

/-- **A pattern that stays in the group around it keeps its meaning there.** -/
theorem compile_enclosed {e : Expr CharSet Look}
    (h : compile ignoreCase ("\\b(" ++ pattern ++ ")\\b") = some e)
    (hstays : ¬LeavesGroup ignoreCase pattern) :
    ∃ plain, compile ignoreCase pattern = some plain ∧ e = plain.bounded := by
  obtain ⟨hmark, hstray⟩ := not_or.mp hstays
  have htext : ("\\b(" ++ pattern ++ ")\\b").toList =
      '\\' :: 'b' :: '(' :: (pattern.toList ++ ending) := by
    rw [String.toList_append, String.toList_append]
    rfl
  have hhead : (pattern.toList ++ ending).head? ≠ some '?' := by
    cases hcs : pattern.toList with
    | nil => decide
    | cons c cs => rwa [hcs] at hmark
  obtain ⟨t, ht, houter, hdepth, hcost, rfl⟩ := compile_eq_some_iff.mp h
  rw [htext, readAll_boundary rfl (by simp), List.length_cons, List.length_cons,
    readAll_group rfl hhead] at ht
  obtain ⟨u, k, hread, hu, hend⟩ := readAll_within (s := start ignoreCase) ht houter hstray
  have hcontent : t.level.content = u.level.content.bounded := by
    rw [readAll_afterGroup rfl hend]
    rfl
  rw [hcontent] at hdepth hcost ⊢
  have hdepth' := u.level.content.depth_le_bounded
  have hcost' := u.level.content.cost_le_bounded
  exact ⟨u.level.content.expr, compile_eq_some_iff.mpr
    ⟨u, hread _ (Nat.lt_succ_self _), hu, by omega, by omega, rfl⟩, rfl⟩

end LineShell.Pattern
