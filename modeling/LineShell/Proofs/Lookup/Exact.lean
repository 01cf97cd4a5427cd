import LineShell.Lookup
import Mathlib.Data.List.Induction
import Mathlib.Tactic.SplitIfs

/-!
# Looking up programs

What a name calls depends on its components: a name that starts at the root or at the working
directory, and one of several components, is a path and is taken as it is written; one component is
searched for in the directories of the search path.

1. `Writes cs path` says by rules what a path is made of. Slashes after the first component may be
   repeated, one may stand at the end, and dots between slashes count for nothing. Each path has
   components in exactly one way (`exists_writes`, `Writes.eq`).
2. The tests that `find` makes see the components (`Writes.isAbsolute_eq`, `Writes.startsHere_eq`,
   `Writes.components_eq`).
3. Joining a directory and a name joins their components (`writes_join`), and a search ends at the
   first entry with a regular file, whatever stands behind it (`search_of_hit`).
-/

namespace LineShell.Lookup

/-- What a path is made of. -/
inductive Component where
  /-- The slash at the start of an absolute path. -/
  | root
  /-- A dot at the start. -/
  | here
  /-- Two dots. -/
  | parent
  | name (text : String)
  deriving DecidableEq, Repr

/-- A text between slashes that counts. -/
structure IsPart (part : String) : Prop where
  ne_empty : part ≠ ""
  ne_dot : part ≠ "."
  not_mem : '/' ∉ part.toList

namespace Component

def text : Component → String
  | root => "/"
  | here => "."
  | parent => ".."
  | name text => text

/-- What a text between slashes stands for. -/
def ofPart (part : String) : Component := if part = ".." then parent else name part

@[simp] theorem text_ofPart (part : String) : (ofPart part).text = part := by
  unfold ofPart
  split_ifs with h
  · exact h.symm
  · rfl

theorem ofPart_ne_root (part : String) : ofPart part ≠ root := by
  unfold ofPart
  split_ifs <;> simp

theorem ofPart_ne_here (part : String) : ofPart part ≠ here := by
  unfold ofPart
  split_ifs <;> simp

end Component

open Component

/-- The path is made of the components. -/
inductive Writes : List Component → String → Prop
  | empty : Writes [] ""
  | root : Writes [root] "/"
  | here : Writes [here] "."
  | part {part : String} (h : IsPart part) : Writes [ofPart part] part
  /-- A slash after something adds nothing, however many there are. -/
  | slash {cs : List Component} {path : String} (h : Writes cs path) (hne : path ≠ "") :
      Writes cs (path ++ "/")
  /-- Neither does a dot after a slash. -/
  | dot {cs : List Component} {path : String} (h : Writes cs (path ++ "/")) :
      Writes cs (path ++ "/" ++ ".")
  | next {cs : List Component} {path part : String} (h : Writes cs (path ++ "/"))
      (hpart : IsPart part) : Writes (cs ++ [ofPart part]) (path ++ "/" ++ part)

section Components

variable {cs : List Component} {path part : String}

/-! ## Components as the tests see them -/

/-- What stands for the start of a path. -/
def front (path : String) : List Component :=
  if isAbsolute path then [root] else if startsHere path then [here] else []

theorem isAbsolute_append (hne : path ≠ "") (rest : String) :
    isAbsolute (path ++ rest) = isAbsolute path := by
  obtain ⟨c, cs, hchars⟩ := List.exists_cons_of_ne_nil
    (show path.toList ≠ [] from fun h => hne (String.toList_inj.mp h))
  unfold isAbsolute
  rw [String.toList_append, hchars]
  rfl

theorem startsHere_append (path rest : String) :
    startsHere (path ++ "/" ++ rest) = startsHere path := by
  obtain ⟨first, pieces, hpieces⟩ := List.exists_cons_of_ne_nil (Text.splitAt_ne_nil '/' path)
  unfold startsHere
  rw [Text.splitAt_append rfl, hpieces]
  rfl

theorem components_append (path rest : String) :
    components (path ++ "/" ++ rest) = components path ++ components rest := by
  unfold components
  rw [Text.splitAt_append rfl, List.filter_append]

theorem components_of_isPart (h : IsPart part) : components part = [part] := by
  unfold components
  rw [Text.splitAt_of_not_mem h.not_mem]
  simp [h.ne_empty, h.ne_dot]

theorem front_of_isPart (h : IsPart part) : front part = [] := by
  have habsolute : isAbsolute part = false := by
    unfold isAbsolute
    simpa using fun hhead => h.not_mem (List.mem_of_head? hhead)
  have hhere : startsHere part = false := by
    unfold startsHere
    rw [Text.splitAt_of_not_mem h.not_mem]
    simpa using h.ne_dot
  simp [front, habsolute, hhere]

theorem front_slash (hne : path ≠ "") : front (path ++ "/") = front path := by
  have hhere : startsHere (path ++ "/") = startsHere path := by
    simpa using startsHere_append path ""
  rw [front, isAbsolute_append hne, hhere, front]

theorem front_append (path rest : String) : front (path ++ "/" ++ rest) = front (path ++ "/") := by
  have hne : path ++ "/" ≠ "" := by simp
  have hhere : startsHere (path ++ "/") = startsHere path := by
    simpa using startsHere_append path ""
  rw [front, isAbsolute_append hne, startsHere_append, front, hhere]

theorem components_slash (path : String) : components (path ++ "/") = components path := by
  have h := components_append path ""
  rwa [String.append_empty, show components "" = [] from rfl, List.append_nil] at h

/-- **A path has its components in one way only.** They are the start of the path and what stands
between its slashes. -/
theorem Writes.eq (h : Writes cs path) : cs = front path ++ (components path).map ofPart := by
  induction h with
  | empty => rfl
  | root => rfl
  | here => rfl
  | part h => rw [front_of_isPart h, components_of_isPart h]; rfl
  | slash h hne ih => rw [front_slash hne, components_slash, ← ih]
  | dot h ih =>
    rw [front_append, components_append, show components "." = [] from rfl, List.append_nil, ih,
      components_slash]
  | next h hpart ih =>
    rw [front_append, components_append, components_of_isPart hpart, List.map_append,
      ← List.append_assoc, List.map_singleton, ih, components_slash]

theorem Writes.exists_slash (h : Writes cs path) : ∃ cs, Writes cs (path ++ "/") := by
  by_cases hne : path = ""
  · subst hne
    exact ⟨[.root], .root⟩
  · exact ⟨cs, .slash h hne⟩

/-- **Every path has components**, by induction on its pieces between slashes, last piece first. -/
theorem exists_writes (path : String) : ∃ cs, Writes cs path := by
  have hpieces (pieces : List String) (hnot : ∀ piece ∈ pieces, '/' ∉ piece.toList) :
      ∃ cs, Writes cs ("/".intercalate pieces) := by
    induction pieces using List.reverseRec with
    | nil => exact ⟨[], .empty⟩
    | append_singleton pieces last ih =>
      have hlast := hnot last (by simp)
      have hpart (he : last ≠ "") (hd : last ≠ ".") : IsPart last := ⟨he, hd, hlast⟩
      by_cases hnil : pieces = []
      · subst hnil
        rw [List.nil_append, String.intercalate_singleton]
        by_cases he : last = ""
        · exact ⟨[], he ▸ .empty⟩
        · by_cases hd : last = "."
          · exact ⟨[.here], hd ▸ .here⟩
          · exact ⟨_, .part (hpart he hd)⟩
      · obtain ⟨cs, hcs⟩ := ih fun piece hp => hnot piece (List.mem_append_left [last] hp)
        obtain ⟨cs', hslash⟩ := hcs.exists_slash
        rw [String.intercalate_append_of_ne_nil hnil (List.cons_ne_nil last []),
          String.intercalate_singleton]
        by_cases he : last = ""
        · exact ⟨cs', by rwa [he, String.append_empty]⟩
        · by_cases hd : last = "."
          · exact ⟨cs', hd ▸ .dot hslash⟩
          · exact ⟨_, .next hslash (hpart he hd)⟩
  have hjoined : "/".intercalate (Text.splitAt '/' path) = path := Text.intercalate_splitAt rfl path
  rw [← hjoined]
  exact hpieces _ fun piece => Text.not_mem_of_mem_splitAt

theorem Writes.eq_empty (h : Writes cs path) (hcs : cs = []) : path = "" := by
  induction h with
  | empty => rfl
  | root => cases hcs
  | here => cases hcs
  | part _ => cases hcs
  | slash _ hne ih => exact absurd (ih hcs) hne
  | dot _ ih => exact absurd (ih hcs) (by simp)
  | next _ _ _ => exact absurd hcs (List.concat_ne_nil _ _)

theorem front_ne_nil_or_components_ne_nil (hne : path ≠ "") :
    front path ≠ [] ∨ components path ≠ [] := by
  obtain ⟨cs, hcs⟩ := exists_writes path
  by_contra hnone
  push Not at hnone
  refine hne (hcs.eq_empty ?_)
  rw [hcs.eq, hnone.1, hnone.2]
  rfl

/-! ## Joining and searching -/

theorem exists_eq_append_slash (h : path.toList.getLast? = some '/') :
    ∃ before, path = before ++ "/" := by
  obtain ⟨cs, hcs⟩ := List.getLast?_eq_some_iff.mp h
  refine ⟨String.ofList cs, String.toList_inj.mp ?_⟩
  rw [hcs, String.toList_append, String.toList_ofList]
  rfl

theorem writes_join (h : Writes cs path) (hpart : IsPart part) :
    Writes (cs ++ [ofPart part]) (join path part) := by
  unfold join
  split_ifs with hempty hslash
  · subst hempty
    rw [h.eq]
    exact .part hpart
  · obtain ⟨before, rfl⟩ := exists_eq_append_slash hslash
    exact .next h hpart
  · exact .next (.slash h hempty) hpart

/-- A list of directories that a search path can hold. -/
structure IsEntries (entries : List String) : Prop where
  ne_nil : entries ≠ []
  not_mem : ∀ entry ∈ entries, ':' ∉ entry.toList

variable {isFile : String → Bool} {entries : List String}

theorem search_intercalate (h : IsEntries entries) (name : String) :
    search isFile (":".intercalate entries) name = (entries.map (join · name)).find? isFile := by
  rw [search, Text.splitAt_intercalate rfl h.ne_nil h.not_mem]

/-- **A search ends at the first hit.** What stands behind it, and what else there is in front, does
not matter. -/
theorem search_of_hit {before after : List String} {dir name : String}
    (h : IsEntries (before ++ dir :: after))
    (hbefore : ∀ entry ∈ before, isFile (join entry name) = false)
    (hdir : isFile (join dir name) = true) :
    search isFile (":".intercalate (before ++ dir :: after)) name = some (join dir name) := by
  have hnone : (before.map (join · name)).find? isFile = none := by
    simpa using hbefore
  rw [search_intercalate h, List.map_append, List.find?_append, hnone, Option.none_or,
    List.map_cons, List.find?_cons_of_pos hdir]

theorem search_of_miss {name : String} (h : IsEntries entries)
    (hmiss : ∀ entry ∈ entries, isFile (join entry name) = false) :
    search isFile (":".intercalate entries) name = none := by
  rw [search_intercalate h]
  simpa using hmiss

end Components

/-! ## The answer -/

/-- What is found for a name of the given components, whatever is in the file system. -/
structure FindsExactly (pathExists isFile : String → Bool) (name : String)
    (cs : List Component) : Prop where
  nothing : cs = [] → ∀ searchPath, find pathExists isFile searchPath name = none
  /-- An absolute name, one that starts at the working directory and one of several components are
  paths, wherever the search goes. -/
  as_written : cs.head? = some .root ∨ cs.head? = some .here ∨ 2 ≤ cs.length →
    ∀ searchPath, find pathExists isFile searchPath name =
      if pathExists name = true then some name else none
  /-- Any other component is searched for. The first entry with a regular file decides. -/
  hit : ∀ c, cs = [c] → c ≠ .root → c ≠ .here → ∀ before dir after,
    IsEntries (before ++ dir :: after) →
    (∀ entry ∈ before, isFile (join entry c.text) = false) → isFile (join dir c.text) = true →
    find pathExists isFile (":".intercalate (before ++ dir :: after)) name =
      some (join dir c.text)
  miss : ∀ c, cs = [c] → c ≠ .root → c ≠ .here → ∀ entries, IsEntries entries →
    (∀ entry ∈ entries, isFile (join entry c.text) = false) →
    find pathExists isFile (":".intercalate entries) name = none

section Answers

variable {pathExists isFile : String → Bool} {name searchPath : String} {cs : List Component}

theorem find_of_front (h : front name ≠ []) :
    find pathExists isFile searchPath name =
      if pathExists name = true then some name else none := by
  have hpath : (isAbsolute name || startsHere name) = true := by
    unfold front at h
    split_ifs at h with habsolute hhere
    · simp [habsolute]
    · simp [hhere]
    · exact absurd rfl h
  unfold find
  rw [if_pos hpath]

theorem find_of_no_front (h : front name = []) :
    find pathExists isFile searchPath name =
      match components name with
      | [] => none
      | [single] => search isFile searchPath single
      | _ => if pathExists name = true then some name else none := by
  have hpath : (isAbsolute name || startsHere name) = false := by
    unfold front at h
    split_ifs at h with habsolute hhere
    simp [habsolute, hhere]
  unfold find
  rw [hpath]
  rfl

/-- A start is a component, so at most one is left to be searched for without it. -/
theorem Writes.front_cases (h : Writes cs name) :
    (front name ≠ [] ∧ (cs.head? = some .root ∨ cs.head? = some .here)) ∨
      (front name = [] ∧ cs = (components name).map ofPart) := by
  rw [h.eq]
  unfold front
  split_ifs
  · exact .inl ⟨by simp, .inl rfl⟩
  · exact .inl ⟨by simp, .inr rfl⟩
  · exact .inr ⟨rfl, rfl⟩

theorem Writes.findsExactly (h : Writes cs name) : FindsExactly pathExists isFile name cs := by
  rcases h.front_cases with ⟨hfront, hhead⟩ | ⟨hfront, hcs⟩
  · exact
      { nothing := by
          rintro rfl
          simp at hhead
        as_written := fun _ _ => find_of_front hfront
        hit := by
          rintro c rfl hroot hhere
          simp_all
        miss := by
          rintro c rfl hroot hhere
          simp_all }
  · have hsingle {c : Component} (hc : cs = [c]) (searchPath : String) :
        find pathExists isFile searchPath name = search isFile searchPath c.text := by
      obtain ⟨part, hpart, rfl⟩ := List.map_eq_singleton_iff.mp (hcs.symm.trans hc)
      rw [find_of_no_front hfront, hpart, text_ofPart]
    exact
      { nothing := by
          rintro rfl searchPath
          rw [find_of_no_front hfront, List.map_eq_nil_iff.mp hcs.symm]
        as_written := by
          intro hpath searchPath
          rw [find_of_no_front hfront]
          subst hcs
          match hparts : components name with
          | [] => simp [hparts] at hpath
          | [single] => simp [hparts, ofPart_ne_root, ofPart_ne_here] at hpath
          | _ :: _ :: _ => rfl
        hit := fun c hc _ _ before dir after hentries hbefore hdir => by
          rw [hsingle hc, search_of_hit hentries hbefore hdir]
        miss := fun c hc _ _ entries hentries hmiss => by
          rw [hsingle hc, search_of_miss hentries hmiss] }

/-- **The lookup is exact.** Every name has components in one way. Without one nothing is found; a
name that starts at the root or at the working directory, and one of several components, is found as
it is written if there is anything at that path, whatever the search path is; any other is found in
the first entry of the search path that holds a regular file of that name, and nowhere if there is
none. Every search path consists of entries in one way, and joining an entry and a component gives a
path with the components of both. -/
theorem find_exact (pathExists isFile : String → Bool) (name : String) :
    (∃ cs, Writes cs name ∧ (∀ cs', Writes cs' name → cs' = cs) ∧
      FindsExactly pathExists isFile name cs) ∧
    (∀ searchPath, ∃! entries, IsEntries entries ∧ ":".intercalate entries = searchPath) ∧
    ∀ dir part cs, Writes cs dir → IsPart part → Writes (cs ++ [ofPart part]) (join dir part) := by
  refine ⟨?_, fun searchPath => ?_, fun _ _ _ h hpart => writes_join h hpart⟩
  · obtain ⟨cs, hcs⟩ := exists_writes name
    exact ⟨cs, hcs, fun cs' hcs' => hcs'.eq.trans hcs.eq.symm, hcs.findsExactly⟩
  · refine ⟨Text.splitAt ':' searchPath, ⟨⟨Text.splitAt_ne_nil ':' searchPath, fun entry =>
      Text.not_mem_of_mem_splitAt⟩, Text.intercalate_splitAt rfl searchPath⟩, ?_⟩
    rintro entries ⟨hentries, rfl⟩
    exact (Text.splitAt_intercalate rfl hentries.ne_nil hentries.not_mem).symm

/-- A name that is one component, although it has a slash: it is searched for, past an entry that is
empty and one that holds no regular file of this name. -/
theorem find_exact_trailing :
    Writes [.name "hi"] "hi/." ∧
      find (fun _ => true) (· = "b/hi") "a::b/:c" "hi/." = some "b/hi" := by
  have hpart : IsPart "hi" := ⟨by decide, by decide, by decide⟩
  have hwrites : Writes [ofPart "hi"] ("hi" ++ "/" ++ ".") :=
    .dot (.slash (.part hpart) (by decide))
  obtain ⟨⟨cs, hcs, hunique, hfinds⟩, -, -⟩ :=
    find_exact (fun _ => true) (fun path => decide (path = "b/hi")) "hi/."
  have hfound := hfinds.hit (.name "hi") (hunique _ hwrites).symm Component.noConfusion
    Component.noConfusion ["a", ""] "b/" ["c"] ⟨by decide, by decide⟩ (by decide) (by decide)
  exact ⟨hwrites, hfound⟩

end Answers

end LineShell.Lookup
