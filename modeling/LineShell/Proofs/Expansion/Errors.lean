import LineShell.Proofs.Expansion.Scan

/-!
# Where a scan fails

A scan fails at a dollar sign that no bound name follows. `feed_error_sound_local` says what such an
error tells about its line, and that it stays where it is if the text behind the next space is
changed.

1. A dollar sign sees the text after it up to the next space, so two texts with the same run look
   alike to it (`longestName_of_nameRun_eq`), also from further in front
   (`nameRun_append_congr`).
2. A dollar sign before the failing one can look past it, but what it takes ends before it. So it
   takes the same name if the line is cut there (`longestName_append_of_prefix`), and the same name
   if the run after the failing sign is the same.
3. `fails_of_scan_eq_error` carries both along the scan.
-/

namespace LineShell

/-! ## Runs of characters -/

theorem nameRun_append_congr {cs ds : List Char} (pre : List Char)
    (h : nameRun cs = nameRun ds) : nameRun (pre ++ cs) = nameRun (pre ++ ds) := by
  induction pre with
  | nil => exact h
  | cons c pre ih =>
    by_cases hc : c = ' '
    · subst hc
      simp
    · simp only [List.cons_append, nameRun_cons hc, ih]

theorem nameRun_append_of_end {run rest : List Char} (hrun : ' ' ∉ run)
    (hend : rest.head? = none ∨ rest.head? = some ' ') : nameRun (run ++ rest) = run := by
  have hrest : nameRun rest = [] := by
    cases rest with
    | nil => rfl
    | cons c rest =>
      have hc : c = ' ' := by simpa using hend
      rw [hc, nameRun_space]
  induction run with
  | nil => exact hrest
  | cons c run ih =>
    simp only [List.mem_cons, not_or] at hrun
    rw [List.cons_append, nameRun_cons (Ne.symm hrun.1), ih hrun.2]

theorem space_not_mem_nameRun (cs : List Char) : ' ' ∉ nameRun cs :=
  (prefix_nameRun_iff.mp List.prefix_rfl).2

theorem nameRun_prefix (cs : List Char) : nameRun cs <+: cs :=
  (prefix_nameRun_iff.mp List.prefix_rfl).1

namespace Scope

variable {scope : Scope} {name : String}

theorem longestName_of_nameRun_eq {cs ds : List Char} (h : nameRun cs = nameRun ds) :
    scope.longestName "" cs = scope.longestName "" ds :=
  longestName_congr_run fun m _ => by rw [h]

/-- The name that is found is found again if the text is cut somewhere after it. -/
theorem longestName_append_of_prefix {rest before : List Char}
    (hname : scope.longestName "" (name.toList ++ rest) = some name) (h : before <+: rest) :
    scope.longestName "" (name.toList ++ before) = some name := by
  rw [longestName_eq_some_iff] at hname ⊢
  exact hname.of_prefix (List.prefix_append_right_inj _ |>.mpr h) (List.prefix_append _ _)

end Scope

/-! ## The failing dollar sign -/

namespace Progress

/-- Scanned from `p` on, a text fails at a dollar sign between `before` and `after`. -/
structure FailsAt (scope : Scope) (k : Nat) (p : Progress) (before after : List Char) : Prop where
  /-- Cut there, it does not fail, and ends outside single quotes. -/
  scanned : ∃ q, scan scope k p before = .ok q ∧ q.quoting ≠ .single
  unbound : scope.longestName "" after = none
  /-- It fails there with every other text that starts with the same run. -/
  stays : ∀ after', nameRun after' = nameRun after →
    scan scope k p (before ++ '$' :: after') = .error ⟨k + before.length⟩

section FailsAt

variable {scope : Scope} {k k' : Nat} {p p' : Progress} {before after : List Char}

/-- With `pre` in front the text fails at the same sign, if scanning `pre` leads to where the
failure was found, both in the text that is cut and in those that go on after the sign. -/
theorem FailsAt.append (h : FailsAt scope k' p' before after) (pre : List Char)
    (hk : k' = k + pre.length)
    (hcut : scan scope k p (pre ++ before) = scan scope k' p' before)
    (hfull : ∀ after', nameRun after' = nameRun after →
      scan scope k p (pre ++ (before ++ '$' :: after')) =
        scan scope k' p' (before ++ '$' :: after')) :
    FailsAt scope k p (pre ++ before) after where
  scanned := by
    rw [hcut]
    exact h.scanned
  unbound := h.unbound
  stays := by
    intro after' hrun
    rw [List.append_assoc, hfull after' hrun, h.stays after' hrun, hk, List.length_append,
      Nat.add_assoc]

/-- One character in front that is not a dollar sign looks at nothing behind it. -/
theorem FailsAt.cons {c : Char} (h : FailsAt scope (k + 1) p' before after)
    (hstep : ∀ cs, scan scope k p (c :: cs) = scan scope (k + 1) p' cs) :
    FailsAt scope k p (c :: before) after :=
  h.append [c] rfl (hstep before) fun after' _ => hstep (before ++ '$' :: after')

/-- A dollar sign in front takes its name again, however the text goes on after the run. -/
theorem FailsAt.reference {name : String} (hact : action p.quoting '$' = .reference)
    (hname : scope.longestName "" (name.toList ++ (before ++ '$' :: after)) = some name)
    (h : FailsAt scope (k + 1 + name.length) (p.append ((scope.get? name).getD "")) before after) :
    FailsAt scope k p ('$' :: name.toList ++ before) after := by
  have htake (rest : List Char)
      (hrest : scope.longestName "" (name.toList ++ rest) = some name) :
      scan scope k p ('$' :: name.toList ++ rest) =
        scan scope (k + 1 + name.length) (p.append ((scope.get? name).getD "")) rest := by
    rw [List.cons_append, scan_reference hact hrest, ← String.length_toList, List.drop_left]
  apply h.append ('$' :: name.toList)
  · rw [List.length_cons, String.length_toList]
    omega
  · exact htake before (Scope.longestName_append_of_prefix hname (List.prefix_append _ _))
  · intro after' hrun
    apply htake
    have hsame : nameRun (name.toList ++ (before ++ '$' :: after')) =
        nameRun (name.toList ++ (before ++ '$' :: after)) :=
      nameRun_append_congr _ (nameRun_append_congr _ (nameRun_append_congr ['$'] hrun))
    rw [Scope.longestName_of_nameRun_eq hsame, hname]

/-- The error `e` of a text is that of one of its dollar signs. -/
def Fails (scope : Scope) (k : Nat) (p : Progress) (cs : List Char) (e : ExpansionError) : Prop :=
  ∃ before after, cs = before ++ '$' :: after ∧ e.position = k + before.length ∧
    FailsAt scope k p before after

theorem Fails.cons {c : Char} {cs : List Char} {e : ExpansionError}
    (h : Fails scope (k + 1) p' cs e)
    (hstep : ∀ cs, scan scope k p (c :: cs) = scan scope (k + 1) p' cs) :
    Fails scope k p (c :: cs) e := by
  obtain ⟨before, after, rfl, he, hfails⟩ := h
  refine ⟨c :: before, after, rfl, ?_, hfails.cons hstep⟩
  rw [he, List.length_cons]
  omega

/-- **Every error has its dollar sign**, by induction along the scan. -/
theorem fails_of_scan_eq_error {e : ExpansionError} {cs : List Char}
    (h : scan scope k p cs = .error e) : Fails scope k p cs e := by
  induction k, p, cs using scan_induction scope with
  | nil k p =>
    rw [scan_nil] at h
    cases h
  | openQuote k p c cs q hact ih =>
    rw [scan_openQuote hact] at h
    exact (ih h).cons fun _ => scan_openQuote hact
  | endWord k p c cs hact ih =>
    rw [scan_endWord hact] at h
    exact (ih h).cons fun _ => scan_endWord hact
  | literal k p c cs hact ih =>
    rw [scan_literal hact] at h
    exact (ih h).cons fun _ => scan_literal hact
  | unbound k p c cs hact hname =>
    rw [scan_unbound hact hname, Except.error.injEq] at h
    obtain ⟨rfl, hquoting⟩ := action_eq_reference_iff.mp hact
    refine ⟨[], cs, rfl, by rw [← h]; rfl, ⟨p.endLine, scan_nil, ?_⟩, hname, ?_⟩
    · rwa [quoting_endLine]
    · intro after' hrun
      exact scan_unbound hact (by rw [Scope.longestName_of_nameRun_eq hrun, hname])
  | reference k p c cs name hact hname ih =>
    obtain ⟨rfl, -⟩ := action_eq_reference_iff.mp hact
    rw [scan_reference hact hname] at h
    obtain ⟨rest, rfl⟩ := Scope.toList_prefix_of_longestName hname
    rw [← String.length_toList, List.drop_left] at h ih
    obtain ⟨before, after, rfl, he, hfails⟩ := ih h
    rw [String.length_toList] at he hfails
    refine ⟨'$' :: name.toList ++ before, after, by simp, ?_, hfails.reference hact hname⟩
    rw [he, List.length_append, List.length_cons, String.length_toList]
    omega

end FailsAt

/-! ## Errors of lines -/

/-- The characters up to the next space after the one at `n`. -/
def runAfter (line : String) (n : Nat) : List Char := nameRun (line.toList.drop (n + 1))

theorem runAfter_eq {line : String} {before after : List Char}
    (hline : line.toList = before ++ '$' :: after) :
    runAfter line before.length = nameRun after := by
  rw [runAfter, hline, ← List.drop_drop, List.drop_left]
  rfl

/-- Up to the end of the run after `n` the lines agree, and there `other` ends or has a space. -/
structure SameRun (line other : String) (n : Nat) : Prop where
  agree : other.toList.take (n + 1 + (runAfter line n).length) =
    line.toList.take (n + 1 + (runAfter line n).length)
  ends : other.toList[n + 1 + (runAfter line n).length]? = none ∨
    other.toList[n + 1 + (runAfter line n).length]? = some ' '

theorem SameRun.exists_eq {line other : String} {before after : List Char}
    (hline : line.toList = before ++ '$' :: after) (h : SameRun line other before.length) :
    ∃ after', other.toList = before ++ '$' :: after' ∧ nameRun after' = nameRun after := by
  obtain ⟨hagree, hends⟩ := h
  rw [runAfter_eq hline] at hagree
  rw [runAfter_eq hline, ← List.head?_drop] at hends
  refine ⟨nameRun after ++ other.toList.drop (before.length + 1 + (nameRun after).length), ?_,
    nameRun_append_of_end (space_not_mem_nameRun after) hends⟩
  have hstart : line.toList.take (before.length + 1 + (nameRun after).length) =
      before ++ '$' :: nameRun after := by
    have hprefix : before ++ '$' :: nameRun after <+: line.toList := by
      rw [hline, List.prefix_append_right_inj, List.prefix_cons_inj]
      exact nameRun_prefix after
    rw [List.prefix_iff_eq_take.mp hprefix, List.length_append, List.length_cons]
    congr 1
    omega
  calc other.toList
      = other.toList.take (before.length + 1 + (nameRun after).length) ++
          other.toList.drop (before.length + 1 + (nameRun after).length) :=
        (List.take_append_drop _ _).symm
    _ = _ := by
        rw [hagree, hstart]
        simp

/-- **Errors are sound and local.** An error points at a dollar sign of the line, the text in front
of it scans without an error and leaves it outside single quotes, and nothing that the run after it
starts with is bound. Every line that agrees up to the end of that run, and ends or has a space
there, fails at the same place. -/
theorem feed_error_sound_local {scope : Scope} {p : Progress} {line : String} {n : Nat}
    (h : p.feed scope line = .error ⟨n⟩) :
    n < line.length ∧ line.toList[n]? = some '$' ∧
      (∃ q, p.feed scope (String.ofList (line.toList.take n)) = .ok q ∧ q.quoting ≠ .single) ∧
      (∀ name, name ≠ "" → name.toList <+: runAfter line n → scope.contains name = false) ∧
      ∀ other, SameRun line other n → p.feed scope other = .error ⟨n⟩ := by
  obtain ⟨before, after, hline, hn, hfails⟩ := fails_of_scan_eq_error h
  obtain rfl : n = before.length := by simpa using hn
  refine ⟨?_, ?_, ?_, ?_, ?_⟩
  · rw [← String.length_toList, hline, List.length_append, List.length_cons]
    omega
  · rw [hline, List.getElem?_append_right (Nat.le_refl _), Nat.sub_self]
    rfl
  · rw [feed, String.toList_ofList, hline, List.take_left]
    exact hfails.scanned
  · rw [runAfter_eq hline]
    exact Scope.longestName_eq_none_iff.mp hfails.unbound
  · intro other hother
    obtain ⟨after', heq, hrun⟩ := hother.exists_eq hline
    rw [feed, heq, hfails.stays after' hrun, Nat.zero_add]

/-- The second sign of `$a$b c` fails. The first one looks past it, for the name `a$bc` too. A quote
that is opened after the space makes no difference, and without the space there is no error. -/
theorem feed_error_sound_local_second :
    feed (.ofList [("a", "1"), ("a$bc", "2")]) {} "$a$b c" = .error ⟨2⟩ ∧
      (∃ q, feed (.ofList [("a", "1"), ("a$bc", "2")]) {} "$a" = .ok q ∧ q.quoting ≠ .single) ∧
      feed (.ofList [("a", "1"), ("a$bc", "2")]) {} "$a$b 'c" = .error ⟨2⟩ ∧
      feed (.ofList [("a", "1"), ("a$bc", "2")]) {} "$a$bc" = .ok { words := ["2"] } := by
  have herror : feed (.ofList [("a", "1"), ("a$bc", "2")]) {} "$a$b c" = .error ⟨2⟩ := by
    decide +kernel
  obtain ⟨-, -, hscanned, -, hlocal⟩ := feed_error_sound_local herror
  exact ⟨herror, hscanned, hlocal _ ⟨by decide +kernel, by decide +kernel⟩, by decide +kernel⟩

end Progress

end LineShell
