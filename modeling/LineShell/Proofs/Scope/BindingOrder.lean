import LineShell.Proofs.Expansion.Names
import Mathlib.Data.Finset.Card
import Mathlib.Data.List.Induction

/-!
# The order of bindings

Pairs of names and values define a mapping, in which the last pair of a name counts (`LastBound`).
A scope that is loaded with them, all at once or one after the other (`Scope.Loaded`), is this
mapping and nothing else (`Scope.Loaded.defines`): from the order of the pairs it keeps only which
of them came last. So pairs of the same mapping lead to the same scope, and pairs of two mappings do
not (`binding_order_irrelevant`). In particular a line is expanded alike, and of two names that
start the same text the longer one is read, not the one that was bound first.

The proofs go from the last pair to the first, since the last pair is the one that decides.
-/

namespace LineShell

/-- The last pair for `name` gives it `value`. -/
def LastBound (pairs : List (String × String)) (name value : String) : Prop :=
  ∃ before after, pairs = before ++ (name, value) :: after ∧ ∀ p ∈ after, p.1 ≠ name

/-- The pairs define the same mapping. -/
def SameBindings (ps qs : List (String × String)) : Prop :=
  ∀ name value, LastBound ps name value ↔ LastBound qs name value

/-- The names that are given a value. -/
def boundNames (pairs : List (String × String)) : Finset String := (pairs.map Prod.fst).toFinset

section Pairs

variable {pairs : List (String × String)} {name value : String} {p : String × String}

theorem not_lastBound_nil : ¬LastBound [] name value := by
  rintro ⟨before, after, hpairs, -⟩
  exact List.append_ne_nil_of_right_ne_nil before (List.cons_ne_nil _ after) hpairs.symm

/-- One more pair decides for its own name and for no other. -/
theorem lastBound_concat_iff :
    LastBound (pairs ++ [p]) name value ↔
      if p.1 = name then p.2 = value else LastBound pairs name value := by
  constructor
  · rintro ⟨before, after, hpairs, hafter⟩
    rcases List.eq_nil_or_concat' after with rfl | ⟨after, q, rfl⟩
    · obtain ⟨-, hp⟩ := List.append_inj' hpairs rfl
      obtain rfl := List.singleton_inj.mp hp
      rw [if_pos rfl]
    · rw [← List.cons_append, ← List.append_assoc] at hpairs
      obtain ⟨rfl, hq⟩ := List.append_inj' hpairs rfl
      obtain rfl := List.singleton_inj.mp hq
      rw [if_neg (hafter p (by simp))]
      exact ⟨before, after, rfl, fun q hq => hafter q (List.mem_append_left [p] hq)⟩
  · split_ifs with hname
    · rintro rfl
      exact ⟨pairs, [], by rw [← hname], fun q hq => absurd hq List.not_mem_nil⟩
    · rintro ⟨before, after, rfl, hafter⟩
      refine ⟨before, after ++ [p], by simp, fun q hq => ?_⟩
      rcases List.mem_append.mp hq with hq | hq
      · exact hafter q hq
      · rwa [List.mem_singleton.mp hq]

theorem mem_boundNames_concat_iff :
    name ∈ boundNames (pairs ++ [p]) ↔ name ∈ boundNames pairs ∨ name = p.1 := by
  simp [boundNames, or_comm]

theorem boundNames_concat : boundNames (pairs ++ [p]) = insert p.1 (boundNames pairs) := by
  ext name
  rw [mem_boundNames_concat_iff, Finset.mem_insert, or_comm]

end Pairs

namespace Scope

/-- Setting the pairs one after the other leads from one scope to another. -/
inductive Sets : Scope → List (String × String) → Scope → Prop where
  | nil (s : Scope) : Sets s [] s
  | cons {s t : Scope} {name value : String} {pairs : List (String × String)}
      (h : Sets (s.set name value) pairs t) : Sets s ((name, value) :: pairs) t

/-- The scope is loaded with the pairs. -/
inductive Loaded (pairs : List (String × String)) : Scope → Prop where
  | atOnce : Loaded pairs (.ofList pairs)
  | oneByOne {s : Scope} (h : Sets .empty pairs s) : Loaded pairs s

/-- The scope is the mapping that the pairs define. -/
structure Defines (pairs : List (String × String)) (s : Scope) : Prop where
  get?_iff : ∀ name value, s.get? name = some value ↔ LastBound pairs name value
  contains_iff : ∀ name, s.contains name = true ↔ name ∈ boundNames pairs
  size_eq : s.size = (boundNames pairs).card
  /-- After a dollar sign the longest of the names is read, wherever it stands among the pairs. -/
  longestName_iff : ∀ cs name, s.longestName "" cs = some name ↔
    IsLongestName (fun m => decide (m ∈ boundNames pairs)) (nameRun cs) name

/-- What is read off the scopes is the same. -/
structure ReadAlike (s t : Scope) : Prop where
  get? : ∀ name, s.get? name = t.get? name
  contains : ∀ name, s.contains name = t.contains name
  size : s.size = t.size
  feed : ∀ (p : Progress) (line : String), p.feed s line = p.feed t line

section Loading

variable {s t : Scope} {ps qs pairs : List (String × String)} {name value : String}

theorem ofList_concat (pairs : List (String × String)) (p : String × String) :
    ofList (pairs ++ [p]) = (ofList pairs).set p.1 p.2 := by
  rw [ofList, setAll, List.foldl_append]
  rfl

theorem Sets.eq_setAll (h : Sets s pairs t) : t = s.setAll pairs := by
  induction h with
  | nil s => rfl
  | cons _ ih => exact ih

theorem Loaded.eq_ofList (h : Loaded pairs s) : s = .ofList pairs := by
  cases h with
  | atOnce => rfl
  | oneByOne h => exact h.eq_setAll

theorem get?_ofList_iff : (ofList pairs).get? name = some value ↔ LastBound pairs name value := by
  induction pairs using List.reverseRec with
  | nil =>
    have hnone : (ofList []).get? name = none := get?_empty name
    rw [hnone]
    exact iff_of_false (by simp) not_lastBound_nil
  | append_singleton pairs p ih =>
    rw [lastBound_concat_iff, ofList_concat, get?_set]
    split_ifs
    · exact Option.some_inj
    · exact ih

theorem contains_ofList_iff : (ofList pairs).contains name = true ↔ name ∈ boundNames pairs := by
  induction pairs using List.reverseRec with
  | nil =>
    have hnone : (ofList []).get? name = none := get?_empty name
    rw [contains, hnone]
    simp [boundNames]
  | append_singleton pairs p ih =>
    rw [mem_boundNames_concat_iff, ← ih, contains, contains, ofList_concat, get?_set]
    split_ifs with hname
    · simp [hname]
    · exact (or_iff_left (Ne.symm hname)).symm

theorem size_set (s : Scope) (name value : String) :
    (s.set name value).size = if s.contains name = true then s.size else s.size + 1 := by
  rw [size, set, Std.ExtTreeMap.size_insert]
  simp [get?, size]

theorem size_ofList : (ofList pairs).size = (boundNames pairs).card := by
  induction pairs using List.reverseRec with
  | nil => rfl
  | append_singleton pairs p ih =>
    rw [boundNames_concat, ofList_concat, size_set]
    by_cases hname : p.1 ∈ boundNames pairs
    · rw [Finset.insert_eq_of_mem hname, if_pos (contains_ofList_iff.mpr hname), ih]
    · rw [Finset.card_insert_of_notMem hname, if_neg (mt contains_ofList_iff.mp hname), ih]

theorem Loaded.defines (h : Loaded pairs s) : Defines pairs s := by
  obtain rfl := h.eq_ofList
  refine ⟨fun _ _ => get?_ofList_iff, fun _ => contains_ofList_iff, size_ofList, fun cs name => ?_⟩
  have hbound : (ofList pairs).contains = fun m => decide (m ∈ boundNames pairs) := by
    funext m
    rw [Bool.eq_iff_iff, contains_ofList_iff, decide_eq_true_iff]
  rw [longestName_eq_some_iff, hbound]

theorem Defines.eq_iff (hs : Defines ps s) (ht : Defines qs t) : s = t ↔ SameBindings ps qs := by
  constructor
  · rintro rfl name value
    rw [← hs.get?_iff, ht.get?_iff]
  · intro hsame
    ext name value
    rw [hs.get?_iff, ht.get?_iff, hsame]

end Loading

/-- **The order of bindings does not matter.** Let two scopes be loaded with pairs, all at once or
one after the other. Each of them is the mapping in which the last pair of a name counts, and has
one binding for each name. If the pairs define the same mapping, the scopes are equal, and so is
what is read off them, expansion included; otherwise they are not equal. -/
theorem binding_order_irrelevant {ps qs : List (String × String)} {s t : Scope}
    (hs : Loaded ps s) (ht : Loaded qs t) :
    Defines ps s ∧ Defines qs t ∧
      (SameBindings ps qs → s = t ∧ ReadAlike s t ∧ t.size = (boundNames ps).card) ∧
      ∀ name value, ¬(LastBound ps name value ↔ LastBound qs name value) → s ≠ t := by
  have heq := hs.defines.eq_iff ht.defines
  refine ⟨hs.defines, ht.defines, fun hsame => ?_, fun name value hdiffer hst => ?_⟩
  · obtain rfl := heq.mpr hsame
    exact ⟨rfl, ⟨fun _ => rfl, fun _ => rfl, rfl, fun _ _ => rfl⟩, hs.defines.size_eq⟩
  · exact hdiffer (heq.mp hst name value)

/-- Four pairs of two names, one of them a start of the other, that are loaded at once, against two
that are set one after the other; and these against two that give the longer name another value. -/
theorem binding_order_irrelevant_ts :
    let four := ofList [("ts", "0"), ("t", "1"), ("ts", "2"), ("t", "3")]
    let two := (empty.set "t" "3").set "ts" "2"
    four = two ∧ two.size = 2 ∧ four.longestName "" ['t', 's', ' '] = some "ts" ∧
      Progress.feed four {} "$ts" = Progress.feed two {} "$ts" ∧
      two ≠ ofList [("t", "3"), ("ts", "0")] := by
  intro four two
  have hfour : Loaded [("ts", "0"), ("t", "1"), ("ts", "2"), ("t", "3")] four := .atOnce
  have htwo : Loaded [("t", "3"), ("ts", "2")] two := .oneByOne (.cons (.cons (.nil two)))
  have hsame : SameBindings [("ts", "0"), ("t", "1"), ("ts", "2"), ("t", "3")]
      [("t", "3"), ("ts", "2")] := by
    intro name value
    rw [← get?_ofList_iff, ← get?_ofList_iff]
    simp only [ofList, setAll, List.foldl_cons, List.foldl_nil, get?_set]
    by_cases ht : "t" = name
    · subst ht
      simp
    · by_cases hts : "ts" = name <;> simp [ht, hts]
  obtain ⟨hdefines, -, heq, -⟩ := binding_order_irrelevant hfour htwo
  obtain ⟨hscopes, halike, hsize⟩ := heq hsame
  refine ⟨hscopes, hsize, ?_, halike.feed {} "$ts", ?_⟩
  · refine (hdefines.longestName_iff _ _).mpr ⟨by decide, by decide, by decide, ?_⟩
    intro other hother _
    have hnames : boundNames [("ts", "0"), ("t", "1"), ("ts", "2"), ("t", "3")] = {"ts", "t"} := by
      decide
    rw [decide_eq_true_iff, hnames, Finset.mem_insert, Finset.mem_singleton] at hother
    rcases hother with rfl | rfl <;> decide
  · refine (binding_order_irrelevant htwo .atOnce).2.2.2 "ts" "2" ?_
    rw [← get?_ofList_iff, ← get?_ofList_iff]
    decide +kernel

end Scope

end LineShell
