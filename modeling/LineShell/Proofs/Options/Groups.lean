import LineShell.Proofs.Options.Arguments
import Mathlib.Data.List.Nodup

/-!
# Flags in any order

A flag that is given takes up one or two arguments, and is a group of its own: the reader takes it
whole, changes the settings by it and goes on (`takeAll_group`). If flags with a value are given
once, a row of groups does the same as its members one after the other (`takeAll_groups`). Settings
that do not get in each other's way come out the same in any order (`takeAll_of_perm`).
-/

namespace LineShell.Options

variable {α : Type}

/-- A flag as it is given. -/
structure WordGroup (α : Type) where
  /-- Its name and, if it takes one, its value. -/
  words : List String
  /-- What it does to the settings. -/
  apply : α → α
  /-- Its long name, if it takes a value and so may be given once. -/
  once : Option String := none

/-- The interface has a flag that is given by the words of the group and does what it does. -/
inductive Interface.Reads (i : Interface α) (g : WordGroup α) : Prop
  | switch {arg : String} {flag : Flag α} (hwords : g.words = [arg]) (harg : IsFlagWord arg)
      (hflag : i.flags.find? (·.isNamed arg) = some flag)
      (heffect : flag.effect = .switch g.apply) (honce : g.once = none)
  | value {arg value : String} {flag : Flag α} {store : String → α → Except String α}
      (hwords : g.words = [arg, value]) (harg : IsFlagWord arg)
      (hflag : i.flags.find? (·.isNamed arg) = some flag) (heffect : flag.effect = .value store)
      (honce : g.once = some flag.long)
      (hstore : ∀ settings, store value settings = .ok (g.apply settings))

/-- The words of several groups. -/
def groupWords (groups : List (WordGroup α)) : List String := groups.flatMap WordGroup.words

/-- The settings after several groups. -/
def applyGroups (groups : List (WordGroup α)) (settings : α) : α :=
  groups.foldl (fun settings g => g.apply settings) settings

namespace Cursor

/-- The cursor behind a group. -/
def give (c : Cursor α) (g : WordGroup α) : Cursor α :=
  { c with settings := g.apply c.settings, given := g.once.toList ++ c.given }

def giveAll (c : Cursor α) (groups : List (WordGroup α)) : Cursor α := groups.foldl give c

theorem giveAll_eq (c : Cursor α) (groups : List (WordGroup α)) :
    c.giveAll groups =
      { c with
        settings := applyGroups groups c.settings
        given := (groups.filterMap WordGroup.once).reverse ++ c.given } := by
  induction groups generalizing c with
  | nil => rfl
  | cons g groups ih =>
    have hgiven : (groups.filterMap WordGroup.once).reverse ++ (c.give g).given =
        ((g :: groups).filterMap WordGroup.once).reverse ++ c.given := by
      unfold give
      cases honce : g.once with
      | none => rw [List.filterMap_cons_none honce]; rfl
      | some name =>
        rw [List.filterMap_cons_some honce, List.reverse_cons, List.append_assoc]
        rfl
    have hrest := ih (c.give g)
    rw [hgiven] at hrest
    exact hrest

theorem IsOpen.give {c : Cursor α} (h : c.IsOpen) (g : WordGroup α) : (c.give g).IsOpen :=
  ⟨h.not_ended, h.not_helpAsked⟩

end Cursor

namespace Interface

variable {i : Interface α} {c : Cursor α} {groups given : List (WordGroup α)} {g : WordGroup α}

/-- **One group.** Whatever its value is, it is taken as a value, since the flag asks for it. -/
theorem takeAll_group (hopen : c.IsOpen) (hreads : i.Reads g)
    (hnew : ∀ name ∈ g.once, name ∉ c.given) (rest : List String) :
    i.takeAll c (g.words ++ rest) = i.takeAll (c.give g) rest := by
  obtain ⟨words, apply, once⟩ := g
  cases hreads with
  | switch hwords harg hflag heffect honce =>
    cases hwords
    cases honce
    exact takeAll_switch hopen harg hflag heffect rest
  | value hwords harg hflag heffect honce hstore =>
    rename_i arg value flag store
    cases hwords
    cases honce
    have hnot : flag.long ∉ c.given := hnew flag.long rfl
    have htake : takeValue c flag store arg value =
        .ok { c with settings := apply c.settings, given := flag.long :: c.given } := by
      unfold takeValue
      rw [if_neg hnot, hstore]
    show i.takeAll c (arg :: value :: rest) = _
    rw [takeAll_value hopen harg hflag heffect, htake]
    rfl

/-- **Groups in a row**, by induction on them: what is remembered of the values grows with each. -/
theorem takeAll_groups (hopen : c.IsOpen) (hreads : ∀ g ∈ groups, i.Reads g)
    (honce : (c.giveAll groups).given.Nodup) (rest : List String) :
    i.takeAll c (groupWords groups ++ rest) = i.takeAll (c.giveAll groups) rest := by
  induction groups generalizing c with
  | nil => rfl
  | cons g groups ih =>
    have hnew : ∀ name ∈ g.once, name ∉ c.given := by
      intro name hname
      rw [Cursor.giveAll_eq, List.filterMap_cons_some hname, List.reverse_cons,
        List.append_assoc] at honce
      exact (List.nodup_cons.mp (List.nodup_append.mp honce).2.1).1
    rw [groupWords, List.flatMap_cons, List.append_assoc,
      takeAll_group hopen (hreads g List.mem_cons_self) hnew]
    exact ih (hopen.give g) (fun g' hg' => hreads g' (List.mem_cons_of_mem g hg')) honce

/-- The groups are read, no value is given twice, and the settings do not get in each other's
way. -/
structure Compatible (i : Interface α) (groups : List (WordGroup α)) : Prop where
  reads : ∀ g ∈ groups, i.Reads g
  once : (groups.filterMap WordGroup.once).Nodup
  commute : ∀ g ∈ groups, ∀ g' ∈ groups, ∀ settings,
    g'.apply (g.apply settings) = g.apply (g'.apply settings)

theorem takeAll_of_perm (h : i.Compatible groups) (hperm : given.Perm groups) (defaults : α) :
    ∃ c : Cursor α, c.IsOpen ∧ c.taken = 0 ∧ c.settings = applyGroups groups defaults ∧
      ∀ rest, i.takeAll { settings := defaults } (groupWords given ++ rest) = i.takeAll c rest := by
  have hreads (g : WordGroup α) (hg : g ∈ given) : i.Reads g := h.reads g (hperm.mem_iff.mp hg)
  have hgiven : (Cursor.giveAll { settings := defaults } given).given.Nodup := by
    rw [Cursor.giveAll_eq, List.append_nil, List.nodup_reverse]
    exact (hperm.filterMap WordGroup.once).nodup_iff.mpr h.once
  have hsettings : applyGroups given defaults = applyGroups groups defaults :=
    hperm.foldl_eq' (fun g hg g' hg' settings => h.commute g (hperm.mem_iff.mp hg) g'
      (hperm.mem_iff.mp hg') settings) defaults
  refine ⟨Cursor.giveAll { settings := defaults } given, ?_, ?_, ?_, fun rest =>
    takeAll_groups ⟨rfl, rfl⟩ hreads hgiven rest⟩
  · rw [Cursor.giveAll_eq]
    exact ⟨rfl, rfl⟩
  · rw [Cursor.giveAll_eq]
  · rw [Cursor.giveAll_eq, ← hsettings]

end Interface

end LineShell.Options
