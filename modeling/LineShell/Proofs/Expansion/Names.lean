import LineShell.Expansion
import Mathlib.Data.List.Infix

/-!
# The longest bound name

`Scope.longestName` reads the characters after a dollar sign one at a time and keeps the last bound
name it has seen. Here that search is described by what it finds:

1. `longestName_eq_some_iff`: it finds `name` exactly when `name` is the longest bound name that the
   run of characters up to the next space starts with.
2. `longestName_eq_none_iff`: it finds nothing exactly when no start of that run is bound.
3. `longestName_congr_run`: what it finds depends on the bound starts of the run alone, so the text
   after the name can be cut or changed as long as no new bound start arises.
-/

namespace LineShell

/-- The characters up to the next space, which are all that a name can be made of. -/
def nameRun (cs : List Char) : List Char := cs.takeWhile (· ≠ ' ')

@[simp] theorem nameRun_nil : nameRun [] = [] := rfl

@[simp] theorem nameRun_space (cs : List Char) : nameRun (' ' :: cs) = [] := by
  simp [nameRun]

theorem nameRun_cons {c : Char} (hc : c ≠ ' ') (cs : List Char) :
    nameRun (c :: cs) = c :: nameRun cs := by
  simp [nameRun, hc]

theorem prefix_nameRun_iff {m cs : List Char} :
    m <+: nameRun cs ↔ m <+: cs ∧ ' ' ∉ m := by
  induction cs generalizing m with
  | nil =>
    rw [nameRun_nil, List.prefix_nil]
    exact ⟨fun h => ⟨h, by rw [h]; exact List.not_mem_nil⟩, And.left⟩
  | cons c cs ih =>
    by_cases hc : c = ' '
    · subst hc
      rw [nameRun_space, List.prefix_nil, List.prefix_cons_iff]
      constructor
      · rintro rfl
        exact ⟨.inl rfl, List.not_mem_nil⟩
      · rintro ⟨hnil | ⟨t, rfl, -⟩, hm⟩
        · exact hnil
        · exact absurd List.mem_cons_self hm
    · rw [nameRun_cons hc, List.prefix_cons_iff, List.prefix_cons_iff]
      constructor
      · rintro (rfl | ⟨t, rfl, ht⟩)
        · exact ⟨.inl rfl, List.not_mem_nil⟩
        · obtain ⟨hpre, hspace⟩ := ih.mp ht
          exact ⟨.inr ⟨t, rfl, hpre⟩, List.not_mem_cons_of_ne_of_not_mem (Ne.symm hc) hspace⟩
      · rintro ⟨rfl | ⟨t, rfl, ht⟩, hm⟩
        · exact .inl rfl
        · exact .inr ⟨t, rfl, ih.mpr ⟨ht, fun h => hm (List.mem_cons_of_mem c h)⟩⟩

theorem prefix_append_cons_iff {m cs ds : List Char} {s : Char} (hs : s ∉ m) :
    m <+: cs ++ s :: ds ↔ m <+: cs := by
  refine ⟨fun h => ?_, fun h => h.trans (List.prefix_append cs _)⟩
  rcases Nat.lt_or_ge cs.length m.length with hlt | hge
  · have hcs : cs ++ [s] <+: m := by
      have hlen : (cs ++ [s]).length ≤ m.length := by
        rw [List.length_append, List.length_singleton]
        omega
      exact List.prefix_of_prefix_length_le ⟨ds, by simp⟩ h hlen
    exact absurd (hcs.subset (by simp)) hs
  · exact List.prefix_of_prefix_length_le h (List.prefix_append cs _) hge

/-- `name` is the longest name among the bound ones that the characters of `run` start with. -/
structure IsLongestName (bound : String → Bool) (run : List Char) (name : String) : Prop where
  isBound : bound name = true
  ne_empty : name ≠ ""
  isStart : name.toList <+: run
  longest : ∀ other, bound other = true → other.toList <+: run → other.length ≤ name.length

theorem IsLongestName.unique {bound : String → Bool} {run : List Char} {m n : String}
    (hm : IsLongestName bound run m) (hn : IsLongestName bound run n) : m = n := by
  have hlen : m.toList.length = n.toList.length := by
    rw [String.length_toList, String.length_toList]
    exact le_antisymm (hn.longest m hm.isBound hm.isStart) (hm.longest n hn.isBound hn.isStart)
  have hpre : m.toList <+: n.toList := List.prefix_of_prefix_length_le hm.isStart hn.isStart hlen.le
  exact String.toList_inj.mp (hpre.eq_of_length hlen)

theorem IsLongestName.of_prefix {bound : String → Bool} {cs ds : List Char} {name : String}
    (hname : IsLongestName bound (nameRun cs) name) (hds : ds <+: cs)
    (hin : name.toList <+: ds) : IsLongestName bound (nameRun ds) name := by
  have hspace := (prefix_nameRun_iff.mp hname.isStart).2
  refine ⟨hname.isBound, hname.ne_empty, prefix_nameRun_iff.mpr ⟨hin, hspace⟩, ?_⟩
  intro other hb hother
  obtain ⟨hpre, hfree⟩ := prefix_nameRun_iff.mp hother
  exact hname.longest other hb (prefix_nameRun_iff.mpr ⟨hpre.trans hds, hfree⟩)

theorem exists_of_toList_prefix_cons {m : String} {c : Char} {run : List Char} (hm : m ≠ "")
    (h : m.toList <+: c :: run) : ∃ rest : String, m = String.singleton c ++ rest ∧
      rest.toList <+: run := by
  rcases List.prefix_cons_iff.mp h with hnil | ⟨t, ht, hpre⟩
  · exact absurd (String.toList_eq_nil_iff.mp hnil) hm
  · refine ⟨String.ofList t, ?_, by rwa [String.toList_ofList]⟩
    apply String.toList_inj.mp
    rw [String.toList_append, String.toList_singleton, String.toList_ofList, ht]
    rfl

theorem push_append (acc m : String) (c : Char) :
    acc.push c ++ m = acc ++ (String.singleton c ++ m) := by
  rw [← String.append_singleton, String.append_assoc]

/-! ## One more character -/

section Cons

variable {bound : String → Bool} {acc : String} {c : Char} {run : List Char}

theorem IsLongestName.cons {m : String}
    (h : IsLongestName (fun m => bound (acc.push c ++ m)) run m) :
    IsLongestName (fun m => bound (acc ++ m)) (c :: run) (String.singleton c ++ m) where
  isBound := by
    have hb := h.isBound
    rwa [push_append] at hb
  ne_empty := by
    intro hnil
    have := congrArg String.length hnil
    simp at this
  isStart := by
    rw [String.toList_append, String.toList_singleton, List.singleton_append,
      List.prefix_cons_inj]
    exact h.isStart
  longest := by
    intro other hbound hother
    by_cases hnil : other = ""
    · subst hnil; simp
    · obtain ⟨rest, rfl, hrest⟩ := exists_of_toList_prefix_cons hnil hother
      have hle := h.longest rest (by rwa [push_append]) hrest
      simp only [String.length_append, String.length_singleton]
      omega

theorem IsLongestName.single (hb : bound (acc.push c) = true)
    (h : ∀ m, m ≠ "" → m.toList <+: run → bound (acc.push c ++ m) = false) :
    IsLongestName (fun m => bound (acc ++ m)) (c :: run) (String.singleton c) where
  isBound := by rwa [String.append_singleton]
  ne_empty := by
    intro hnil
    have := congrArg String.length hnil
    simp at this
  isStart := by
    rw [String.toList_singleton, List.prefix_cons_inj]
    exact List.nil_prefix
  longest := by
    intro other hbound hother
    by_cases hnil : other = ""
    · subst hnil; simp
    · obtain ⟨rest, rfl, hrest⟩ := exists_of_toList_prefix_cons hnil hother
      rw [← push_append] at hbound
      by_cases hr : rest = ""
      · subst hr; simp
      · rw [h rest hr hrest] at hbound
        cases hbound

end Cons

namespace Scope

/-! ## What the search finds -/

variable {scope : Scope} {name : String} {cs : List Char}

theorem longestName_space (scope : Scope) (acc : String) (cs : List Char) :
    scope.longestName acc (' ' :: cs) = none := by
  rw [longestName, if_pos rfl]

/-- A longer name wins; without one, the name that ends here is tried. -/
theorem longestName_cons (scope : Scope) (acc : String) {c : Char} (hc : c ≠ ' ')
    (cs : List Char) :
    scope.longestName acc (c :: cs) =
      (scope.longestName (acc.push c) cs).or
        (if scope.contains (acc.push c) then some (acc.push c) else none) := by
  simp only [longestName, if_neg hc]
  cases scope.longestName (acc.push c) cs <;> rfl

/-- What the search finds after the characters `acc`, by induction on the characters it reads. -/
theorem longestName_spec (scope : Scope) (acc : String) (cs : List Char) :
    match scope.longestName acc cs with
    | some n => ∃ m, n = acc ++ m ∧
        IsLongestName (fun m => scope.contains (acc ++ m)) (nameRun cs) m
    | none => ∀ m, m ≠ "" → m.toList <+: nameRun cs → scope.contains (acc ++ m) = false := by
  induction cs generalizing acc with
  | nil =>
    intro m hm hpre
    rw [nameRun_nil, List.prefix_nil] at hpre
    exact absurd (String.toList_eq_nil_iff.mp hpre) hm
  | cons c cs ih =>
    by_cases hc : c = ' '
    · subst hc
      rw [longestName_space]
      intro m hm hpre
      rw [nameRun_space, List.prefix_nil] at hpre
      exact absurd (String.toList_eq_nil_iff.mp hpre) hm
    · rw [longestName_cons scope acc hc, nameRun_cons hc]
      have ih := ih (acc.push c)
      cases hlonger : scope.longestName (acc.push c) cs with
      | some longer =>
        rw [hlonger] at ih
        obtain ⟨m, rfl, hm⟩ := ih
        rw [Option.some_or]
        exact ⟨String.singleton c ++ m, push_append acc m c, hm.cons⟩
      | none =>
        rw [hlonger] at ih
        rw [Option.none_or]
        by_cases hb : scope.contains (acc.push c) = true
        · rw [if_pos hb]
          exact ⟨String.singleton c, String.append_singleton.symm, .single hb ih⟩
        · rw [if_neg hb]
          intro m hm hpre
          obtain ⟨rest, rfl, hrest⟩ := exists_of_toList_prefix_cons hm hpre
          rw [← push_append]
          by_cases hr : rest = ""
          · subst hr
            rw [String.append_empty]
            exact Bool.eq_false_iff.mpr hb
          · exact ih rest hr hrest

theorem isLongestName_of_longestName (h : scope.longestName "" cs = some name) :
    IsLongestName scope.contains (nameRun cs) name := by
  have hspec := longestName_spec scope "" cs
  rw [h] at hspec
  obtain ⟨m, rfl, hm⟩ := hspec
  simpa only [String.empty_append] using hm

/-- **The search is exact.** It finds the longest bound name that the run starts with. -/
theorem longestName_eq_some_iff :
    scope.longestName "" cs = some name ↔ IsLongestName scope.contains (nameRun cs) name := by
  refine ⟨isLongestName_of_longestName, fun hname => ?_⟩
  cases hfound : scope.longestName "" cs with
  | some n => rw [(isLongestName_of_longestName hfound).unique hname]
  | none =>
    have hspec := longestName_spec scope "" cs
    rw [hfound] at hspec
    have hb := hspec name hname.ne_empty hname.isStart
    rw [String.empty_append, hname.isBound] at hb
    cases hb

theorem longestName_eq_none_iff :
    scope.longestName "" cs = none ↔
      ∀ m, m ≠ "" → m.toList <+: nameRun cs → scope.contains m = false := by
  have hspec := longestName_spec scope "" cs
  constructor
  · intro hnone
    rw [hnone] at hspec
    simpa only [String.empty_append] using hspec
  · intro hall
    cases hfound : scope.longestName "" cs with
    | none => rfl
    | some n =>
      have hn := isLongestName_of_longestName hfound
      have hb := hn.isBound
      rw [hall n hn.ne_empty hn.isStart] at hb
      cases hb

/-! ## Changing the text after the name -/

theorem longestName_congr_run {ds : List Char}
    (h : ∀ m, scope.contains m = true →
      (m.toList <+: nameRun cs ↔ m.toList <+: nameRun ds)) :
    scope.longestName "" cs = scope.longestName "" ds := by
  apply Option.ext
  intro name
  rw [longestName_eq_some_iff, longestName_eq_some_iff]
  constructor
  · intro hname
    exact ⟨hname.isBound, hname.ne_empty, (h name hname.isBound).mp hname.isStart,
      fun other hb hpre => hname.longest other hb ((h other hb).mpr hpre)⟩
  · intro hname
    exact ⟨hname.isBound, hname.ne_empty, (h name hname.isBound).mpr hname.isStart,
      fun other hb hpre => hname.longest other hb ((h other hb).mp hpre)⟩

/-- A space, and any other character that no bound name has, ends the search. -/
theorem longestName_append_cons {s : Char}
    (hs : s = ' ' ∨ ∀ m, scope.contains m = true → s ∉ m.toList) (cs ds : List Char) :
    scope.longestName "" (cs ++ s :: ds) = scope.longestName "" cs := by
  apply longestName_congr_run
  intro m hm
  rw [prefix_nameRun_iff, prefix_nameRun_iff]
  apply and_congr_left
  intro hspace
  apply prefix_append_cons_iff
  rcases hs with rfl | hs
  · exact hspace
  · exact hs m hm

theorem toList_prefix_of_longestName (hname : scope.longestName "" cs = some name) :
    name.toList <+: cs :=
  (prefix_nameRun_iff.mp (longestName_eq_some_iff.mp hname).isStart).1

theorem length_le_of_longestName (hname : scope.longestName "" cs = some name) :
    name.length ≤ cs.length := by
  rw [← String.length_toList]
  exact (toList_prefix_of_longestName hname).length_le

end Scope

end LineShell
