import LineShell.Proofs.Expansion.Scan

/-!
# What a line can refer to

After a dollar sign stands text, and the names that the dollar sign can refer to are the starts of
that text without a space. A scan looks up these names and no others, so scopes that agree on them
scan the line alike (`scan_congr`).

1. The search for a name asks of the starts of a run alone whether they are bound
   (`longestName_congr_scope`), and each of these is a name the line can refer to.
2. Along the line, what is left of it refers to nothing new (`Referable.of_suffix`).
3. In particular, binding a name with a space makes no difference to any line
   (`feed_set_of_space`). Every other name that is bound is read where a dollar sign and the name
   end a line, whatever else is bound (`scan_dollar_name`).
-/

namespace LineShell

/-! ## Names after dollar signs -/

/-- Somewhere in the text, `name` stands right after a dollar sign. -/
def Mentions (cs : List Char) (name : String) : Prop := '$' :: name.toList <:+: cs

instance (cs : List Char) (name : String) : Decidable (Mentions cs name) :=
  inferInstanceAs (Decidable ('$' :: name.toList <:+: cs))

/-- The names that dollar signs of the text can refer to. -/
structure Referable (cs : List Char) (name : String) : Prop where
  ne_empty : name ≠ ""
  space_not_mem : ' ' ∉ name.toList
  mentions : Mentions cs name

theorem Referable.of_suffix {cs ds : List Char} {name : String} (h : Referable cs name)
    (hcs : cs <:+ ds) : Referable ds name :=
  ⟨h.ne_empty, h.space_not_mem, h.mentions.trans hcs.isInfix⟩

theorem referable_of_start {cs : List Char} {name : String} (hne : name ≠ "")
    (h : name.toList <+: nameRun cs) : Referable ('$' :: cs) name := by
  obtain ⟨hpre, hspace⟩ := prefix_nameRun_iff.mp h
  exact ⟨hne, hspace, (List.prefix_cons_inj '$' |>.mpr hpre).isInfix⟩

/-- The scopes bind the given names alike. -/
def Scope.AgreeOn (names : String → Prop) (s t : Scope) : Prop :=
  ∀ name, names name → s.get? name = t.get? name

theorem Scope.AgreeOn.mono {names names' : String → Prop} {s t : Scope}
    (h : Scope.AgreeOn names s t) (hsub : ∀ name, names' name → names name) :
    Scope.AgreeOn names' s t :=
  fun name hname => h name (hsub name hname)

theorem Scope.agreeOn_set {names : String → Prop} (s : Scope) {name : String} (value : String)
    (h : ¬ names name) : Scope.AgreeOn names (s.set name value) s := by
  intro other hother
  apply s.get?_set_of_ne value
  rintro rfl
  exact h hother

/-! ## Scans under two scopes -/

theorem IsLongestName.congr_bound {bound bound' : String → Bool} {run : List Char} {name : String}
    (hname : IsLongestName bound run name)
    (h : ∀ m, m ≠ "" → m.toList <+: run → bound m = bound' m) :
    IsLongestName bound' run name where
  isBound := by
    rw [← h name hname.ne_empty hname.isStart]
    exact hname.isBound
  ne_empty := hname.ne_empty
  isStart := hname.isStart
  longest := by
    intro other hb hother
    by_cases hnil : other = ""
    · subst hnil
      exact Nat.zero_le _
    · exact hname.longest other (by rwa [h other hnil hother]) hother

theorem Scope.longestName_congr_scope {s t : Scope} {cs : List Char}
    (h : ∀ m, m ≠ "" → m.toList <+: nameRun cs → s.contains m = t.contains m) :
    s.longestName "" cs = t.longestName "" cs := by
  apply Option.ext
  intro name
  rw [longestName_eq_some_iff, longestName_eq_some_iff]
  exact ⟨fun hname => hname.congr_bound h,
    fun hname => hname.congr_bound fun m hm hpre => (h m hm hpre).symm⟩

namespace Progress

/-- **A scan looks up names that the text can refer to, and no others.** -/
theorem scan_congr {s t : Scope} {k : Nat} {p : Progress} {cs : List Char}
    (h : Scope.AgreeOn (Referable cs) s t) : scan s k p cs = scan t k p cs := by
  -- what is left of the line refers to nothing new
  have htail {c : Char} {cs : List Char} (h : Scope.AgreeOn (Referable (c :: cs)) s t) :
      Scope.AgreeOn (Referable cs) s t :=
    h.mono fun name hname => hname.of_suffix (List.suffix_cons c cs)
  have hlook {cs : List Char} (h : Scope.AgreeOn (Referable ('$' :: cs)) s t) :
      s.longestName "" cs = t.longestName "" cs :=
    Scope.longestName_congr_scope fun m hm hpre => by
      rw [Scope.contains, Scope.contains, h m (referable_of_start hm hpre)]
  induction k, p, cs using scan_induction s with
  | nil k p => rw [scan_nil, scan_nil]
  | openQuote k p c cs q hact ih => rw [scan_openQuote hact, scan_openQuote hact, ih (htail h)]
  | endWord k p c cs hact ih => rw [scan_endWord hact, scan_endWord hact, ih (htail h)]
  | literal k p c cs hact ih => rw [scan_literal hact, scan_literal hact, ih (htail h)]
  | unbound k p c cs hact hname =>
    obtain ⟨rfl, -⟩ := action_eq_reference_iff.mp hact
    rw [scan_unbound hact hname, scan_unbound hact (by rw [← hlook h, hname])]
  | reference k p c cs name hact hname ih =>
    obtain ⟨rfl, -⟩ := action_eq_reference_iff.mp hact
    have hlongest := Scope.longestName_eq_some_iff.mp hname
    have hvalue : s.get? name = t.get? name :=
      h name (referable_of_start hlongest.ne_empty hlongest.isStart)
    have hrest : Scope.AgreeOn (Referable (cs.drop name.length)) s t :=
      (htail h).mono fun other hother => hother.of_suffix (List.drop_suffix name.length cs)
    rw [scan_reference hact hname, scan_reference hact (by rw [← hlook h, hname]), ih hrest,
      hvalue]

theorem feed_congr {s t : Scope} (p : Progress) {line : String}
    (h : Scope.AgreeOn (Referable line.toList) s t) : p.feed s line = p.feed t line :=
  scan_congr h

/-- **A name with a space** may be bound to anything: no line can refer to it. -/
theorem feed_set_of_space (scope : Scope) {name : String} (value : String) (p : Progress)
    (line : String) (h : ' ' ∈ name.toList) :
    p.feed (scope.set name value) line = p.feed scope line :=
  feed_congr p (scope.agreeOn_set value fun hname => hname.space_not_mem h)

end Progress

/-! ## Names that are read -/

section Read

variable {scope : Scope} {name value : String}

theorem Scope.longestName_toList (hne : name ≠ "") (hspace : ' ' ∉ name.toList)
    (hvalue : scope.get? name = some value) : scope.longestName "" name.toList = some name := by
  rw [longestName_eq_some_iff]
  refine ⟨by rw [contains, hvalue]; rfl, hne, prefix_nameRun_iff.mpr ⟨List.prefix_rfl, hspace⟩, ?_⟩
  -- whatever else is bound, the run ends with the name
  intro other _ hother
  have hle := (prefix_nameRun_iff.mp hother).1.length_le
  rwa [String.length_toList, String.length_toList] at hle

/-- **A name at the end of a line is read**, whatever other names are bound. -/
theorem Progress.scan_dollar_name (hne : name ≠ "") (hspace : ' ' ∉ name.toList)
    (hvalue : scope.get? name = some value) (k : Nat) {p : Progress} (hp : p.quoting ≠ .single) :
    scan scope k p ('$' :: name.toList) = .ok (p.append value).endLine := by
  rw [scan_reference (action_eq_reference_iff.mpr ⟨rfl, hp⟩)
    (Scope.longestName_toList hne hspace hvalue), ← String.length_toList, List.drop_length,
    scan_nil, hvalue]
  rfl

theorem expand_dollar_name (hne : name ≠ "") (hspace : ' ' ∉ name.toList)
    (hvalue : scope.get? name = some value) :
    expand scope ("$" ++ name) = .ok { words := [value].filter (!·.isEmpty) } := by
  have htext : ("$" ++ name).toList = '$' :: name.toList := String.toList_append
  rw [expand, Progress.feed, htext, Progress.scan_dollar_name hne hspace hvalue 0 (by simp),
    Progress.endLine_of_bare rfl, Progress.endWord_eq, Progress.pending_append,
    String.empty_append]
  rfl

end Read

end LineShell
