import LineShell.Proofs.Lookup.Exact

/-!
# Names with a slash

A name with a slash is the path of a program, so the search path should not matter to it. But what
decides is the number of components, and a slash does not always make a second one: behind the first
component there may be nothing but slashes and dots. Such a name is searched for as if it ended in
front of the slash, and every other name with a slash is taken as it is written
(`slash_takesPath_iff`).
-/

namespace LineShell.Lookup

/-- The name is taken as it is written, wherever the search would go. -/
def TakesPath (name : String) : Prop :=
  ∀ (pathExists isFile : String → Bool) (searchPath searchPath' : String),
    find pathExists isFile searchPath name = find pathExists isFile searchPath' name ∧
      find pathExists isFile searchPath name = if pathExists name = true then some name else none

/-- The name is the component `part`, a slash, and nothing behind it but slashes and dots. -/
structure Trails (part name : String) : Prop where
  isPart : IsPart part
  rest : ∃ rest, name = part ++ "/" ++ rest ∧
    ∀ piece ∈ Text.splitAt '/' rest, piece = "" ∨ piece = "."

section Slash

variable {pathExists isFile : String → Bool} {searchPath name part rest : String}

theorem components_eq_nil_iff :
    components rest = [] ↔ ∀ piece ∈ Text.splitAt '/' rest, piece = "" ∨ piece = "." := by
  rw [components, List.filter_eq_nil_iff]
  refine forall₂_congr fun piece _ => ?_
  by_cases hempty : piece = ""
  · simp [hempty]
  · simp [hempty]

theorem front_ne_nil_iff :
    front name ≠ [] ↔ isAbsolute name = true ∨ startsHere name = true := by
  unfold front
  split_ifs with habsolute hhere
  · simp [habsolute]
  · simp [hhere]
  · simp [habsolute, hhere]

theorem exists_eq_append_slash_of_mem (h : '/' ∈ name.toList) :
    ∃ first rest, name = first ++ "/" ++ rest ∧ '/' ∉ first.toList := by
  obtain ⟨before, after, hchars, hbefore⟩ := List.eq_append_cons_of_mem h
  refine ⟨String.ofList before, String.ofList after, String.toList_inj.mp ?_, ?_⟩
  · simp only [String.toList_append, String.toList_ofList, hchars, List.append_assoc]
    rfl
  · rwa [String.toList_ofList]

/-- **A component with a slash behind it** is searched for if no component follows. -/
theorem find_part_slash (h : IsPart part) (rest : String) :
    find pathExists isFile searchPath (part ++ "/" ++ rest) =
      if components rest = [] then search isFile searchPath part
      else if pathExists (part ++ "/" ++ rest) = true then some (part ++ "/" ++ rest)
      else none := by
  have hfront : front (part ++ "/" ++ rest) = [] := by
    rw [front_append, front_slash h.ne_empty, front_of_isPart h]
  have hparts : components (part ++ "/" ++ rest) = part :: components rest := by
    rw [components_append, components_of_isPart h]
    rfl
  rw [find_of_no_front hfront, hparts]
  cases components rest with
  | nil => rfl
  | cons next more => rfl

theorem Trails.find_eq (h : Trails part name) :
    find pathExists isFile searchPath name = search isFile searchPath part := by
  obtain ⟨hpart, rest, rfl, hrest⟩ := h
  rw [find_part_slash hpart, if_pos (components_eq_nil_iff.mpr hrest)]

/-- What is searched for can be found where nothing is at the path. -/
theorem Trails.not_takesPath (h : Trails part name) : ¬TakesPath name := by
  intro hpath
  have hfound := (hpath (fun _ => false) (fun _ => true) "" "").2
  rw [h.find_eq] at hfound
  have hentries : IsEntries ([] ++ "" :: []) := ⟨by decide, by decide⟩
  have hhit : search (fun _ => true) "" part = some (join "" part) :=
    search_of_hit hentries (by simp) rfl
  rw [hhit] at hfound
  cases hfound

/-- A name that is cut at its first slash starts at the root, at the working directory or with a
component, and the first two are paths. -/
theorem takesPath_of_not_trails (h : '/' ∈ name.toList) (hnot : ∀ part, ¬Trails part name) :
    TakesPath name := by
  have hwritten (pathExists isFile : String → Bool) (searchPath : String) :
      find pathExists isFile searchPath name =
        if pathExists name = true then some name else none := by
    obtain ⟨first, rest, rfl, hfirst⟩ := exists_eq_append_slash_of_mem h
    by_cases hroot : first = ""
    · subst hroot
      exact find_of_front (front_ne_nil_iff.mpr (.inl (by simp [isAbsolute])))
    · by_cases hhere : first = "."
      · subst hhere
        have hstarts : startsHere ("." ++ "/" ++ rest) = true := by
          rw [startsHere_append]
          rfl
        exact find_of_front (front_ne_nil_iff.mpr (.inr hstarts))
      · have hpart : IsPart first := ⟨hroot, hhere, hfirst⟩
        have hmore : components rest ≠ [] := fun hnil =>
          hnot first ⟨hpart, rest, rfl, components_eq_nil_iff.mp hnil⟩
        rw [find_part_slash hpart, if_neg hmore]
  intro pathExists isFile searchPath searchPath'
  rw [hwritten, hwritten]
  exact ⟨rfl, rfl⟩

end Slash

/-- **When a name with a slash is a path.** For every file system and every two search paths it has
the same answer, itself if there is anything at that path, exactly if something else than slashes
and dots stands behind its first component. Otherwise its first component is searched for. -/
theorem slash_takesPath_iff {name : String} (h : '/' ∈ name.toList) :
    (TakesPath name ↔ ∀ part, ¬Trails part name) ∧
      ∀ part, Trails part name → ∀ pathExists isFile searchPath,
        find pathExists isFile searchPath name = search isFile searchPath part := by
  refine ⟨⟨fun hpath part htrails => htrails.not_takesPath hpath, takesPath_of_not_trails h⟩, ?_⟩
  intro part htrails pathExists isFile searchPath
  exact htrails.find_eq

/-- Two dots behind the slash are a component, one dot is none. -/
theorem slash_takesPath_iff_dots :
    TakesPath "hi/.." ∧
      ∀ pathExists isFile searchPath,
        find pathExists isFile searchPath "hi/./" = search isFile searchPath "hi" := by
  have htrails : Trails "hi" "hi/./" := ⟨⟨by decide, by decide, by decide⟩, "./", rfl, by decide⟩
  refine ⟨(slash_takesPath_iff (by decide)).1.mpr ?_,
    (slash_takesPath_iff (by decide)).2 "hi" htrails⟩
  rintro part ⟨hpart, rest, hname, hrest⟩
  have hparts : components "hi/.." = ["hi", ".."] := by decide
  rw [hname, components_append, components_of_isPart hpart, components_eq_nil_iff.mpr hrest] at hparts
  cases hparts

/-- Where `bin/hi` is the only file, nothing is at the path `hi/`, and yet a program is found for it
with one of two search paths. -/
theorem slash_searched :
    let onlyFile (path : String) : Bool := path = "bin/hi"
    '/' ∈ "hi/".toList ∧ onlyFile "hi/" = false ∧
      find onlyFile onlyFile "bin" "hi/" = some "bin/hi" ∧
      find onlyFile onlyFile "alt" "hi/" = none ∧ ¬TakesPath "hi/" := by
  have htrails : Trails "hi" "hi/" := ⟨⟨by decide, by decide, by decide⟩, "", rfl, by decide⟩
  exact ⟨by decide, by decide, by decide, by decide, htrails.not_takesPath⟩

end LineShell.Lookup
