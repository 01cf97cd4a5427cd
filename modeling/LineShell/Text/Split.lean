/-!
Splitting a text at every occurrence of a character. A text with `n` occurrences has `n + 1` pieces,
which may be empty.
-/

namespace LineShell.Text

/-- The pieces between the occurrences of `sep`. -/
def splitChars (sep : Char) : List Char → List (List Char)
  | [] => [[]]
  | c :: cs =>
    if c = sep then [] :: splitChars sep cs
    else
      match splitChars sep cs with
      | [] => [[c]]
      | piece :: pieces => (c :: piece) :: pieces

/-- The pieces of a text between the occurrences of `sep`. -/
def splitAt (sep : Char) (s : String) : List String :=
  (splitChars sep s.toList).map String.ofList

theorem splitChars_ne_nil (sep : Char) (cs : List Char) : splitChars sep cs ≠ [] := by
  cases cs with
  | nil => simp [splitChars]
  | cons c cs =>
    unfold splitChars
    repeat' split
    all_goals simp

theorem length_splitChars (sep : Char) (cs : List Char) :
    (splitChars sep cs).length = cs.count sep + 1 := by
  induction cs with
  | nil => rfl
  | cons c cs ih =>
    by_cases h : c = sep
    · simp [splitChars, h, ih]
    · cases hs : splitChars sep cs with
      | nil => exact absurd hs (splitChars_ne_nil sep cs)
      | cons p ps => simp_all [splitChars]

theorem length_splitAt (sep : Char) (s : String) :
    (splitAt sep s).length = s.toList.count sep + 1 := by
  simp [splitAt, length_splitChars]

theorem intercalate_splitChars (sep : Char) (cs : List Char) :
    [sep].intercalate (splitChars sep cs) = cs := by
  induction cs with
  | nil => rfl
  | cons c cs ih =>
    obtain ⟨piece, pieces, hs⟩ := List.exists_cons_of_ne_nil (splitChars_ne_nil sep cs)
    rw [hs] at ih
    by_cases h : c = sep
    · rw [splitChars, if_pos h, hs, List.intercalate_cons_cons, ih, h]
      rfl
    · rw [splitChars, if_neg h, hs]
      cases pieces with
      | nil => simpa using ih
      | cons next pieces =>
        rw [List.intercalate_cons_cons] at ih ⊢
        simpa using ih

theorem mem_of_mem_splitChars {sep c : Char} {cs piece : List Char}
    (hpiece : piece ∈ splitChars sep cs) (hc : c ∈ piece) : c ∈ cs ∧ c ≠ sep := by
  induction cs generalizing piece with
  | nil =>
    rw [splitChars, List.mem_singleton] at hpiece
    subst hpiece
    cases hc
  | cons d cs ih =>
    have hlater {piece : List Char} (hp : piece ∈ splitChars sep cs) (hc : c ∈ piece) :
        c ∈ d :: cs ∧ c ≠ sep :=
      ⟨List.mem_cons_of_mem d (ih hp hc).1, (ih hp hc).2⟩
    obtain ⟨next, pieces, hs⟩ := List.exists_cons_of_ne_nil (splitChars_ne_nil sep cs)
    by_cases h : d = sep
    · rw [splitChars, if_pos h] at hpiece
      rcases List.mem_cons.mp hpiece with rfl | hp
      · cases hc
      · exact hlater hp hc
    · rw [splitChars, if_neg h, hs] at hpiece
      rcases List.mem_cons.mp hpiece with rfl | hp
      · rcases List.mem_cons.mp hc with rfl | hc
        · exact ⟨List.mem_cons_self, h⟩
        · exact hlater (by rw [hs]; exact List.mem_cons_self) hc
      · exact hlater (by rw [hs]; exact List.mem_cons_of_mem next hp) hc

theorem splitChars_append (sep : Char) (xs ys : List Char) :
    splitChars sep (xs ++ sep :: ys) = splitChars sep xs ++ splitChars sep ys := by
  induction xs with
  | nil => simp [splitChars]
  | cons x xs ih =>
    obtain ⟨piece, pieces, hs⟩ := List.exists_cons_of_ne_nil (splitChars_ne_nil sep xs)
    rw [hs, List.cons_append] at ih
    by_cases h : x = sep
    · rw [List.cons_append, splitChars, splitChars, if_pos h, if_pos h, ih, hs]
      rfl
    · rw [List.cons_append, splitChars, splitChars, if_neg h, if_neg h, ih, hs]
      rfl

theorem splitChars_of_not_mem {sep : Char} {cs : List Char} (h : sep ∉ cs) :
    splitChars sep cs = [cs] := by
  induction cs with
  | nil => rfl
  | cons c cs ih =>
    rw [List.mem_cons, not_or] at h
    rw [splitChars, if_neg (Ne.symm h.1), ih h.2]

section Pieces

variable {sep : Char} {mark : String}

theorem splitAt_append (hmark : mark.toList = [sep]) (s t : String) :
    splitAt sep (s ++ mark ++ t) = splitAt sep s ++ splitAt sep t := by
  rw [splitAt, String.toList_append, String.toList_append, hmark, List.append_assoc,
    List.singleton_append, splitChars_append, List.map_append]
  rfl

theorem splitAt_of_not_mem {s : String} (h : sep ∉ s.toList) : splitAt sep s = [s] := by
  rw [splitAt, splitChars_of_not_mem h, List.map_singleton, String.ofList_toList]

theorem splitAt_ne_nil (sep : Char) (s : String) : splitAt sep s ≠ [] := by
  rw [splitAt, ne_eq, List.map_eq_nil_iff]
  exact splitChars_ne_nil sep s.toList

theorem mem_of_mem_splitAt {s piece : String} {c : Char} (hpiece : piece ∈ splitAt sep s)
    (hc : c ∈ piece.toList) : c ∈ s.toList ∧ c ≠ sep := by
  obtain ⟨cs, hcs, rfl⟩ := List.mem_map.mp hpiece
  rw [String.toList_ofList] at hc
  exact mem_of_mem_splitChars hcs hc

theorem not_mem_of_mem_splitAt {s piece : String} (h : piece ∈ splitAt sep s) :
    sep ∉ piece.toList :=
  fun hsep => (mem_of_mem_splitAt h hsep).2 rfl

theorem intercalate_splitAt (hmark : mark.toList = [sep]) (s : String) :
    mark.intercalate (splitAt sep s) = s := by
  apply String.toList_inj.mp
  have hid : String.toList ∘ String.ofList = id := funext fun _ => String.toList_ofList
  rw [String.toList_intercalate, hmark, splitAt, List.map_map, hid, List.map_id]
  exact intercalate_splitChars sep s.toList

theorem splitAt_intercalate (hmark : mark.toList = [sep]) {pieces : List String}
    (hne : pieces ≠ []) (h : ∀ piece ∈ pieces, sep ∉ piece.toList) :
    splitAt sep (mark.intercalate pieces) = pieces := by
  induction pieces with
  | nil => exact absurd rfl hne
  | cons piece pieces ih =>
    have hpiece := splitAt_of_not_mem (h piece List.mem_cons_self)
    cases pieces with
    | nil => rw [String.intercalate_singleton, hpiece]
    | cons next pieces =>
      rw [String.intercalate_cons_cons, splitAt_append hmark, hpiece,
        ih (List.cons_ne_nil next pieces) fun p hp => h p (List.mem_cons_of_mem piece hp)]
      rfl

end Pieces

end LineShell.Text
