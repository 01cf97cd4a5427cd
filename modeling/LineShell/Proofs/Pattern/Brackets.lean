import LineShell.Pattern.Bracket
import LineShell.Proofs.Pattern.Escapes

/-!
# Bracketed classes in front of an ending

A bracket ends with its closing bracket, so one that is complete stands whole in front of the
ending. A range may look at the character after a dash, but it asks only whether that is a closing
bracket or another dash (`peek_append_iff`).
-/

namespace LineShell.Pattern

/-! ## The start of a bracket -/

section Brackets

variable {f : Flags} {cs rest : List Char} {n : Nat} {b : Bracket}

theorem dashes_suffix (cs : List Char) : (f.dashes cs).2 <:+ cs := collect_suffix _ _ cs

theorem dashes_front (h : f.dashes (cs ++ ending) = (n, rest ++ ending)) :
    f.dashes cs = (n, rest) := by
  obtain ⟨hn, hrest⟩ := Prod.mk.inj h
  have htaken := collect_front (Prod.ext rfl hrest)
  unfold Flags.dashes
  dsimp only
  rw [collect_eq_of_le _ (Nat.le_refl _) (n := (cs ++ ending).length) (by simp), htaken]
  exact Prod.ext hn rfl

/-- Reads the caret that negates a class. -/
def Flags.negation (f : Flags) (cs : List Char) : Bool × List Char :=
  match f.skip cs with
  | '^' :: cs => (true, f.skip cs)
  | _ => (false, f.skip cs)

/-- Reads the dashes or the closing bracket that stand for themselves. -/
def Flags.firstItems (f : Flags) (b : Bracket) (cs : List Char) : Bracket × List Char :=
  match f.dashes cs with
  | (0, ']' :: cs) => (b.add { set := f.literal ']' }, f.skip cs)
  | (n, cs) => ((List.replicate n ()).foldl (fun b _ => b.add { set := .single '-' }) b, cs)

theorem openBracket_eq (cs : List Char) :
    f.openBracket cs = f.firstItems { negated := (f.negation cs).1 } (f.negation cs).2 := rfl

theorem negation_suffix (cs : List Char) : (f.negation cs).2 <:+ cs := by
  unfold Flags.negation
  split
  case h_1 inner hinner =>
    have hskip := skip_suffix f cs
    rw [hinner] at hskip
    exact ((skip_suffix f inner).trans (List.suffix_cons _ inner)).trans hskip
  case h_2 => exact skip_suffix f cs

theorem negation_front {negated : Bool}
    (h : f.negation (cs ++ ending) = (negated, rest ++ ending)) :
    f.negation cs = (negated, rest) := by
  unfold Flags.negation at h ⊢
  split at h
  case h_1 inner hinner =>
    obtain ⟨rfl, hrest⟩ := Prod.mk.inj h
    obtain ⟨inner, rfl⟩ := exists_append_of_suffix (hrest ▸ skip_suffix f inner)
    rw [skip_cons_front hinner]
    exact Prod.ext rfl (skip_front hrest)
  case h_2 hcaret =>
    obtain ⟨rfl, hrest⟩ := Prod.mk.inj h
    rw [hrest] at hcaret
    rw [skip_front hrest]
    split
    case h_1 inner => exact absurd rfl (hcaret (inner ++ ending))
    case h_2 => rfl

theorem firstItems_suffix (b : Bracket) (cs : List Char) : (f.firstItems b cs).2 <:+ cs := by
  have hdashes := dashes_suffix (f := f) cs
  unfold Flags.firstItems
  split
  case h_1 inner hinner =>
    rw [hinner] at hdashes
    exact ((skip_suffix f inner).trans (List.suffix_cons _ inner)).trans hdashes
  case h_2 hinner =>
    rwa [hinner] at hdashes

theorem firstItems_front {b' : Bracket}
    (h : f.firstItems b (cs ++ ending) = (b', rest ++ ending)) :
    f.firstItems b cs = (b', rest) := by
  unfold Flags.firstItems at h ⊢
  split at h
  case h_1 inner hinner =>
    obtain ⟨rfl, hrest⟩ := Prod.mk.inj h
    obtain ⟨inner, rfl⟩ := exists_append_of_suffix (hrest ▸ skip_suffix f inner)
    have hdashes : f.dashes cs = (0, ']' :: inner) := dashes_front hinner
    rw [hdashes]
    exact Prod.ext rfl (skip_front hrest)
  case h_2 n after hbracket hafter =>
    obtain ⟨rfl, rfl⟩ := Prod.mk.inj h
    rw [dashes_front hafter]
    split
    case h_1 inner heq =>
      obtain ⟨rfl, rfl⟩ := Prod.mk.inj heq
      exact absurd rfl (hbracket (inner ++ ending) rfl)
    case h_2 heq =>
      obtain ⟨rfl, rfl⟩ := Prod.mk.inj heq
      rfl

theorem openBracket_suffix (cs : List Char) : (f.openBracket cs).2 <:+ cs :=
  (firstItems_suffix _ _).trans (negation_suffix cs)

theorem openBracket_front (h : f.openBracket (cs ++ ending) = (b, rest ++ ending)) :
    f.openBracket cs = (b, rest) := by
  rw [openBracket_eq] at h ⊢
  have hsuffix := firstItems_suffix (f := f) { negated := (f.negation (cs ++ ending)).1 }
    (f.negation (cs ++ ending)).2
  rw [h] at hsuffix
  obtain ⟨ds, hds⟩ := exists_append_of_suffix hsuffix
  rw [hds] at h
  rw [negation_front (Prod.ext rfl hds)]
  exact firstItems_front h

/-! ## Named classes -/

/-- The caret that negates a named class. -/
def caretSign (negated : Bool) : List Char := if negated then ['^'] else []

/-- Takes that caret, if there is one. -/
def takeCaret (cs : List Char) : Bool × List Char :=
  match cs with
  | '^' :: cs => (true, cs)
  | _ => (false, cs)

theorem takeCaret_eq_iff {negated : Bool} :
    takeCaret cs = (negated, rest) ↔
      cs = caretSign negated ++ rest ∧ (negated = false → rest.head? ≠ some '^') := by
  unfold takeCaret
  split
  case h_1 inner =>
    cases negated with
    | true => simp [caretSign]
    | false =>
      constructor
      · intro h
        cases h
      · rintro ⟨rfl, hcaret⟩
        exact absurd rfl (hcaret rfl)
  case h_2 hcaret =>
    cases negated with
    | true =>
      constructor
      · intro h
        cases h
      · rintro ⟨rfl, -⟩
        exact absurd rfl (hcaret rest)
    | false =>
      have hhead (h : cs.head? = some '^') : False := by
        obtain ⟨inner, rfl⟩ := List.head?_eq_some_iff.mp h
        exact hcaret inner rfl
      constructor
      · intro h
        obtain ⟨-, rfl⟩ := Prod.mk.inj h
        exact ⟨rfl, fun _ => hhead⟩
      · rintro ⟨rfl, -⟩
        rfl

/-- The class of a name and what follows the name, which has to be a closing colon and bracket. -/
def closeNamed (negated : Bool) (parts : List Char × List Char) :
    Option (Bool × CharSet × List Char) :=
  match parts with
  | (name, ':' :: ']' :: rest) =>
    (CharSet.ascii? (String.ofList name)).map fun s => (negated, s, rest)
  | _ => none

theorem asciiClass?_colon (cs : List Char) :
    asciiClass? ('[' :: ':' :: cs) =
      closeNamed (takeCaret cs).1 ((takeCaret cs).2.span (· != ':')) :=
  rfl

theorem closeNamed_eq_some_iff {negated negated' : Bool} {s : CharSet}
    {parts : List Char × List Char} :
    closeNamed negated parts = some (negated', s, rest) ↔
      negated = negated' ∧ ∃ name, parts = (name, ':' :: ']' :: rest) ∧
        CharSet.ascii? (String.ofList name) = some s := by
  unfold closeNamed
  split
  case h_1 name after =>
    constructor
    · intro h
      obtain ⟨s, hs, h⟩ := Option.map_eq_some_iff.mp h
      rw [Prod.mk.injEq, Prod.mk.injEq] at h
      obtain ⟨rfl, rfl, rfl⟩ := h
      exact ⟨rfl, name, rfl, hs⟩
    · rintro ⟨rfl, name, hparts, hs⟩
      cases hparts
      rw [hs, Option.map_some]
  case h_2 hparts =>
    constructor
    · intro h
      cases h
    · rintro ⟨-, name, rfl, -⟩
      exact absurd rfl (hparts name rest)

theorem asciiClass?_eq_some_iff {negated : Bool} {s : CharSet} :
    asciiClass? ('[' :: cs) = some (negated, s, rest) ↔
      ∃ name, cs = ':' :: (caretSign negated ++ (name ++ ':' :: ']' :: rest)) ∧
        (∀ c ∈ name, (c != ':') = true) ∧
        (negated = false → (name ++ ':' :: ']' :: rest).head? ≠ some '^') ∧
        CharSet.ascii? (String.ofList name) = some s := by
  constructor
  · intro h
    obtain ⟨inner, rfl⟩ : ∃ inner, cs = ':' :: inner := by
      unfold asciiClass? at h
      split at h
      case h_1 inner heq => exact ⟨inner, (List.cons.inj heq).2⟩
      case h_2 => cases h
    rw [asciiClass?_colon, closeNamed_eq_some_iff] at h
    obtain ⟨hnegated, name, hspan, hs⟩ := h
    obtain ⟨hinner, hname, -⟩ := span_eq_cons_iff.mp hspan
    obtain ⟨rfl, hcaret⟩ := takeCaret_eq_iff.mp (Prod.ext hnegated hinner)
    exact ⟨name, rfl, hname, hcaret, hs⟩
  · rintro ⟨name, rfl, hname, hcaret, hs⟩
    have hspan : (name ++ ':' :: ']' :: rest).span (· != ':') = (name, ':' :: ']' :: rest) :=
      span_eq_cons_iff.mpr ⟨rfl, hname, rfl⟩
    have htake := takeCaret_eq_iff.mpr ⟨rfl, hcaret⟩
    rw [asciiClass?_colon, htake, hspan]
    exact closeNamed_eq_some_iff.mpr ⟨rfl, name, rfl, hs⟩

theorem asciiClass?_suffix {negated : Bool} {s : CharSet}
    (h : asciiClass? ('[' :: cs) = some (negated, s, rest)) : rest <:+ cs := by
  obtain ⟨name, rfl, -⟩ := asciiClass?_eq_some_iff.mp h
  exact ⟨':' :: (caretSign negated ++ name ++ [':', ']']), by simp⟩

theorem asciiClass?_front {negated : Bool} {s : CharSet}
    (h : asciiClass? ('[' :: (cs ++ ending)) = some (negated, s, rest ++ ending)) :
    asciiClass? ('[' :: cs) = some (negated, s, rest) := by
  obtain ⟨name, hcs, hname, hcaret, hs⟩ := asciiClass?_eq_some_iff.mp h
  refine asciiClass?_eq_some_iff.mpr ⟨name, ?_, hname, ?_, hs⟩
  · apply List.append_cancel_right (hcs.trans _)
    simp
  · intro hnegated
    simpa using hcaret hnegated

theorem asciiClass?_append {negated : Bool} {s : CharSet}
    (h : asciiClass? ('[' :: cs) = some (negated, s, rest)) :
    asciiClass? ('[' :: (cs ++ ending)) = some (negated, s, rest ++ ending) := by
  obtain ⟨name, rfl, hname, hcaret, hs⟩ := asciiClass?_eq_some_iff.mp h
  refine asciiClass?_eq_some_iff.mpr ⟨name, ?_, hname, ?_, hs⟩
  · simp
  · intro hnegated
    simpa using hcaret hnegated

/-! ## Items -/

theorem classAtom_suffix {x : Atom} (h : f.classAtom cs = some (x, rest)) : rest <:+ cs.tail := by
  unfold Flags.classAtom at h
  split at h
  case h_1 => cases h
  case h_2 cs => exact (escape_suffix h).trans (List.tail_suffix cs)
  case h_3 =>
    obtain ⟨-, rfl⟩ := Prod.mk.inj (Option.some.inj h)
    exact List.suffix_refl _

theorem classAtom_front {x : Atom} (h : f.classAtom (cs ++ ending) = some (x, rest ++ ending)) :
    f.classAtom cs = some (x, rest) ∨ Dangling f x rest := by
  cases cs with
  | nil => exact absurd (classAtom_suffix h) not_suffix_afterGroup
  | cons c cs =>
    unfold Flags.classAtom at h
    split at h
    case h_1 heq => cases heq
    case h_2 heq =>
      obtain ⟨rfl, rfl⟩ := List.cons.inj heq
      exact escape_front h
    case h_3 hslash heq =>
      obtain ⟨rfl, rfl⟩ := List.cons.inj heq
      obtain ⟨rfl, hrest⟩ := Prod.mk.inj (Option.some.inj h)
      simp only [Flags.classAtom, List.append_cancel_right hrest, true_or]

/-- The character after a dash is looked at, and the ending only adds a parenthesis there. -/
theorem peek_append_iff {c : Char} (hc : c ≠ ')') :
    f.peek (cs ++ ending) = some c ↔ f.peek cs = some c := by
  have hhead (ds : List Char) : (ds ++ ending).head? = some c ↔ ds.head? = some c := by
    cases ds with
    | nil => simp [ending, hc.symm]
    | cons d ds => rfl
  unfold Flags.peek
  split
  case isTrue =>
    rw [dropWhile_append_ending]
    generalize cs.dropWhile Text.isBlank = ds
    split
    case h_1 inner hinner =>
      obtain ⟨ds, rfl, rfl⟩ := eq_cons_of_append_ending (by decide) hinner
      rw [dropWhile_append_ending]
      exact hhead _
    case h_2 hmark =>
      rw [hhead]
      split
      case h_1 inner => exact absurd rfl (hmark (inner ++ ending))
      case h_2 => rfl
  case isFalse => exact hhead cs

/-- Reads what follows the first character of an item: the rest of a range, or nothing. -/
def Flags.rangeRest (f : Flags) (first : Atom) (cs : List Char) :
    Option (ClassPart × List Char) :=
  match f.skip cs with
  | [] => none
  | '-' :: cs =>
    if f.peek cs = some ']' || f.peek cs = some '-' then
      (f.classItem? first).bind fun item => some (item, '-' :: cs)
    else
      (f.classAtom (f.skip cs)).bind fun (last, rest) =>
        (f.classLiteral? first).bind fun low => (f.classLiteral? last).bind fun high =>
          if low ≤ high then
            some ({ set := .range low high, cost := rangeCost (high.toNat < 0x80) }, rest)
          else none
  | cs => (f.classItem? first).bind fun item => some (item, cs)

theorem classRange_eq (cs : List Char) :
    f.classRange cs = (f.classAtom cs).bind fun (first, rest) => f.rangeRest first rest := rfl

/-- A condition is no item, so the exception of `\b{` does not matter here. -/
theorem rangeRest_look (condition : Look) (cs : List Char) :
    f.rangeRest (.look condition) cs = none := by
  unfold Flags.rangeRest
  split
  case h_1 => rfl
  case h_2 =>
    split
    · rfl
    · exact Option.bind_eq_none_iff.mpr fun _ _ => rfl
  case h_3 => rfl

theorem rangeRest_suffix {first : Atom} {part : ClassPart}
    (h : f.rangeRest first cs = some (part, rest)) : rest <:+ cs := by
  have hskip := skip_suffix f cs
  unfold Flags.rangeRest at h
  split at h
  case h_1 => cases h
  case h_2 dash hdash =>
    rw [hdash] at hskip
    split at h
    · obtain ⟨item, -, h⟩ := Option.bind_eq_some_iff.mp h
      obtain ⟨-, rfl⟩ := Prod.mk.inj (Option.some.inj h)
      exact hskip
    · obtain ⟨⟨last, tail⟩, hlast, h⟩ := Option.bind_eq_some_iff.mp h
      obtain ⟨low, -, h⟩ := Option.bind_eq_some_iff.mp h
      obtain ⟨high, -, h⟩ := Option.bind_eq_some_iff.mp h
      split at h
      · obtain ⟨-, rfl⟩ := Prod.mk.inj (Option.some.inj h)
        exact (((classAtom_suffix hlast).trans (List.tail_suffix _)).trans
          ((skip_suffix f dash).trans (List.suffix_cons _ dash))).trans hskip
      · cases h
  case h_3 =>
    obtain ⟨item, -, h⟩ := Option.bind_eq_some_iff.mp h
    obtain ⟨-, rfl⟩ := Prod.mk.inj (Option.some.inj h)
    exact hskip

/-- An item needs something behind it, which the ending must not be. -/
theorem rangeRest_front {first : Atom} {part : ClassPart} (hne : rest ≠ [])
    (h : f.rangeRest first (cs ++ ending) = some (part, rest ++ ending)) :
    f.rangeRest first cs = some (part, rest) := by
  unfold Flags.rangeRest at h
  split at h
  case h_1 => cases h
  case h_2 dash hdash =>
    split at h
    case isTrue hpeek =>
      obtain ⟨item, hitem, h⟩ := Option.bind_eq_some_iff.mp h
      obtain ⟨rfl, hrest⟩ := Prod.mk.inj (Option.some.inj h)
      obtain ⟨ds, rfl, rfl⟩ := eq_cons_of_append_ending (by decide) hrest.symm
      simp only [peek_append_iff (by decide : ']' ≠ ')'),
        peek_append_iff (by decide : '-' ≠ ')')] at hpeek
      unfold Flags.rangeRest
      rw [skip_cons_front hdash]
      simp only [if_pos hpeek, hitem, Option.bind_some]
    case isFalse hpeek =>
      obtain ⟨⟨last, tail⟩, hlast, h⟩ := Option.bind_eq_some_iff.mp h
      obtain ⟨low, hlow, h⟩ := Option.bind_eq_some_iff.mp h
      obtain ⟨high, hhigh, h⟩ := Option.bind_eq_some_iff.mp h
      split at h
      case isTrue hle =>
        obtain ⟨rfl, hrest⟩ := Prod.mk.inj (Option.some.inj h)
        obtain rfl : tail = rest ++ ending := hrest
        have hsuffix := (classAtom_suffix hlast).trans (List.tail_suffix _)
        obtain ⟨ds, rfl⟩ := exists_append_of_suffix (hsuffix.trans (skip_suffix f dash))
        rw [skip_append_of_suffix hsuffix] at hlast
        simp only [peek_append_iff (by decide : ']' ≠ ')'),
          peek_append_iff (by decide : '-' ≠ ')')] at hpeek
        rcases classAtom_front hlast with hlast | ⟨⟨condition, rfl⟩, -⟩
        · unfold Flags.rangeRest
          rw [skip_cons_front hdash]
          simp only [if_neg hpeek, hlast, hlow, hhigh, if_pos hle, Option.bind_some]
        · cases hhigh
      case isFalse => cases h
  case h_3 hnil hdash =>
    obtain ⟨item, hitem, h⟩ := Option.bind_eq_some_iff.mp h
    obtain ⟨rfl, hrest⟩ := Prod.mk.inj (Option.some.inj h)
    unfold Flags.rangeRest
    rw [hrest] at hdash
    rw [skip_front hrest]
    split
    case h_1 => exact absurd rfl hne
    case h_2 => exact (hdash _ rfl).elim
    case h_3 => simp only [hitem, Option.bind_some]

theorem classRange_suffix {part : ClassPart} (h : f.classRange cs = some (part, rest)) :
    rest <:+ cs.tail := by
  obtain ⟨⟨first, after⟩, hfirst, h⟩ := Option.bind_eq_some_iff.mp h
  exact (rangeRest_suffix h).trans (classAtom_suffix hfirst)

theorem classRange_front {part : ClassPart} (hne : rest ≠ [])
    (h : f.classRange (cs ++ ending) = some (part, rest ++ ending)) :
    f.classRange cs = some (part, rest) := by
  rw [classRange_eq] at h
  obtain ⟨⟨first, after⟩, hfirst, h⟩ := Option.bind_eq_some_iff.mp h
  obtain ⟨after, rfl⟩ := exists_append_of_suffix (rangeRest_suffix h)
  rcases classAtom_front hfirst with hfirst | ⟨⟨condition, rfl⟩, -⟩
  · rw [classRange_eq, hfirst]
    exact rangeRest_front hne h
  · dsimp only at h
    rw [rangeRest_look] at h
    cases h

/-! ## The rest of a bracket -/

/-- What one round comes to: the outermost bracket is closed, or the bracket `b` inside `outer` is
still open. -/
inductive BracketRound where
  | done (part : ClassPart)
  | more (b : Bracket) (outer : List Bracket)

/-- One round of the reading of a bracket, without what does not count in front. -/
def Flags.bracketRound (f : Flags) (b : Bracket) (outer : List Bracket) (cs : List Char) :
    Option (BracketRound × List Char) :=
  match cs with
  | [] => none
  | '[' :: cs =>
    match asciiClass? ('[' :: cs) with
    | some (negated, set, rest) =>
      (f.complIf negated (f.fold set)).map fun set =>
        (.more (b.add { set, cost := rangeCost true + complCost negated }) outer, rest)
    | none => some (.more (f.openBracket cs).1 (b :: outer), (f.openBracket cs).2)
  | ']' :: rest =>
    (b.close f).map fun part =>
      match outer with
      | [] => (.done part, rest)
      | parent :: outer => (.more (parent.add part) outer, rest)
  | '&' :: '&' :: rest => some (.more (b.operator f .inter) outer, rest)
  | '-' :: '-' :: rest => some (.more (b.operator f .diff) outer, rest)
  | '~' :: '~' :: rest => some (.more (b.operator f .symmDiff) outer, rest)
  | cs => (f.classRange cs).map fun (item, rest) => (.more (b.add item) outer, rest)

variable {outer : List Bracket} {round : BracketRound} {part : ClassPart}

theorem bracketRest_succ (n : Nat) (cs : List Char) :
    f.bracketRest b outer (n + 1) cs =
      (f.bracketRound b outer (f.skip cs)).bind fun (round, rest) =>
        match round with
        | .done part => some (part, rest)
        | .more b outer => f.bracketRest b outer n rest := by
  rw [Flags.bracketRest]
  generalize f.skip cs = ds
  split
  case h_1 => rfl
  case h_2 inner =>
    simp only [Flags.bracketRound]
    cases asciiClass? ('[' :: inner) with
    | none => rfl
    | some p =>
      obtain ⟨negated, set, rest⟩ := p
      simp only
      cases f.complIf negated (f.fold set) <;> rfl
  case h_3 =>
    simp only [Flags.bracketRound]
    cases b.close f with
    | none => rfl
    | some part => cases outer <;> rfl
  case h_4 | h_5 | h_6 => rfl
  case h_7 =>
    simp only [Flags.bracketRound]
    cases f.classRange ds <;> rfl

theorem bracketRound_suffix (h : f.bracketRound b outer cs = some (round, rest)) :
    rest <:+ cs.tail := by
  unfold Flags.bracketRound at h
  split at h
  case h_1 => cases h
  case h_2 inner =>
    split at h
    case h_1 hclass =>
      obtain ⟨set, -, h⟩ := Option.map_eq_some_iff.mp h
      obtain ⟨-, rfl⟩ := Prod.mk.inj h
      exact asciiClass?_suffix hclass
    case h_2 =>
      obtain ⟨-, rfl⟩ := Prod.mk.inj (Option.some.inj h)
      exact openBracket_suffix inner
  case h_3 after =>
    obtain ⟨part, -, h⟩ := Option.map_eq_some_iff.mp h
    split at h
    · obtain ⟨-, rfl⟩ := Prod.mk.inj h
      exact List.suffix_refl after
    · obtain ⟨-, rfl⟩ := Prod.mk.inj h
      exact List.suffix_refl after
  case h_4 after | h_5 after | h_6 after =>
    obtain ⟨-, rfl⟩ := Prod.mk.inj (Option.some.inj h)
    exact List.suffix_cons _ after
  case h_7 =>
    obtain ⟨⟨item, after⟩, hitem, h⟩ := Option.map_eq_some_iff.mp h
    obtain ⟨-, rfl⟩ := Prod.mk.inj h
    exact classRange_suffix hitem

/-- One round in front of the ending. Something has to be left for the round after it. -/
theorem bracketRound_front
    (h : f.bracketRound b outer (cs ++ ending) = some (round, rest ++ ending))
    (hne : (∃ part, round = .done part) ∨ rest ≠ []) :
    f.bracketRound b outer cs = some (round, rest) := by
  cases cs with
  | nil => exact absurd (bracketRound_suffix h) not_suffix_afterGroup
  | cons c cs =>
    rw [List.cons_append] at h
    unfold Flags.bracketRound at h
    split at h
    case h_1 heq => cases heq
    case h_2 heq =>
      obtain ⟨rfl, rfl⟩ := List.cons.inj heq
      split at h
      case h_1 hclass =>
        obtain ⟨set, hset, h⟩ := Option.map_eq_some_iff.mp h
        obtain ⟨rfl, rfl⟩ := Prod.mk.inj h
        simp only [Flags.bracketRound, asciiClass?_front hclass, hset, Option.map_some]
      case h_2 hclass =>
        obtain ⟨rfl, hrest⟩ := Prod.mk.inj (Option.some.inj h)
        have hnone : asciiClass? ('[' :: cs) = none := by
          apply Option.eq_none_iff_forall_not_mem.mpr
          rintro ⟨negated, set, after⟩ hsome
          rw [asciiClass?_append hsome] at hclass
          cases hclass
        simp only [Flags.bracketRound, hnone, openBracket_front (Prod.ext rfl hrest)]
    case h_3 heq =>
      obtain ⟨rfl, rfl⟩ := List.cons.inj heq
      obtain ⟨part, hpart, h⟩ := Option.map_eq_some_iff.mp h
      simp only [Flags.bracketRound, hpart, Option.map_some]
      split at h
      all_goals
        obtain ⟨rfl, hrest⟩ := Prod.mk.inj h
        rw [List.append_cancel_right hrest]
    case h_4 after heq | h_5 after heq | h_6 after heq =>
      obtain ⟨rfl, hnext⟩ := List.cons.inj heq
      obtain ⟨ds, rfl, rfl⟩ := eq_cons_of_append_ending (by decide) hnext
      obtain ⟨rfl, hrest⟩ := Prod.mk.inj (Option.some.inj h)
      simp only [Flags.bracketRound, List.append_cancel_right hrest]
    case h_7 hopen hclose hinter hdiff hsymm =>
      obtain ⟨⟨item, after⟩, hitem, h⟩ := Option.map_eq_some_iff.mp h
      obtain ⟨rfl, rfl⟩ := Prod.mk.inj h
      have hrest : rest ≠ [] := hne.resolve_left nofun
      have hitem : f.classRange (c :: cs) = some (item, rest) := classRange_front hrest hitem
      unfold Flags.bracketRound
      split
      case h_1 heq => cases heq
      case h_2 heq => exact (hopen _ (congrArg (· ++ ending) heq)).elim
      case h_3 heq => exact (hclose _ (congrArg (· ++ ending) heq)).elim
      case h_4 heq => exact (hinter _ (congrArg (· ++ ending) heq)).elim
      case h_5 heq => exact (hdiff _ (congrArg (· ++ ending) heq)).elim
      case h_6 heq => exact (hsymm _ (congrArg (· ++ ending) heq)).elim
      case h_7 => rw [hitem, Option.map_some]

theorem bracketRest_suffix (h : f.bracketRest b outer n cs = some (part, rest)) :
    rest <:+ (f.skip cs).tail := by
  induction n generalizing b outer cs with
  | zero => cases h
  | succ n ih =>
    rw [bracketRest_succ] at h
    obtain ⟨⟨round, after⟩, hround, h⟩ := Option.bind_eq_some_iff.mp h
    have hafter := bracketRound_suffix hround
    cases round with
    | done part =>
      obtain ⟨-, rfl⟩ := Prod.mk.inj (Option.some.inj h)
      exact hafter
    | more b outer =>
      exact (((ih h).trans (List.tail_suffix _)).trans (skip_suffix f after)).trans hafter

/-- What a bracket is read from has at least its closing bracket in front of the ending. -/
theorem exists_append_of_bracketRest
    (h : f.bracketRest b outer n cs = some (part, rest ++ ending)) :
    ∃ ds, cs = ds ++ ending ∧ ds ≠ [] ∧ f.skip cs = f.skip ds ++ ending := by
  have hsuffix := bracketRest_suffix h
  have hskip := hsuffix.trans (List.tail_suffix _)
  obtain ⟨ds, rfl⟩ := exists_append_of_suffix (hskip.trans (skip_suffix f cs))
  have happend := skip_append_of_suffix hskip
  refine ⟨ds, rfl, ?_, happend⟩
  rintro rfl
  rw [happend, skip_nil] at hsuffix
  exact not_suffix_afterGroup hsuffix

/-- **A bracket that is closed is read whole in front of the ending.** -/
theorem bracketRest_front {m : Nat}
    (h : f.bracketRest b outer n (cs ++ ending) = some (part, rest ++ ending))
    (hm : cs.length < m) : f.bracketRest b outer m cs = some (part, rest) := by
  induction n generalizing b outer cs m with
  | zero => cases h
  | succ n ih =>
    obtain ⟨ds, hds, -, hskip⟩ := exists_append_of_bracketRest h
    obtain rfl := List.append_cancel_right hds
    obtain ⟨m, rfl⟩ : ∃ k, m = k + 1 := ⟨m - 1, by omega⟩
    rw [bracketRest_succ, hskip] at h
    obtain ⟨⟨round, after⟩, hround, h⟩ := Option.bind_eq_some_iff.mp h
    rw [bracketRest_succ]
    cases round with
    | done part' =>
      obtain ⟨rfl, rfl⟩ := Prod.mk.inj (Option.some.inj h)
      rw [bracketRound_front hround (.inl ⟨_, rfl⟩)]
      rfl
    | more b' outer' =>
      obtain ⟨after, rfl, hne, -⟩ := exists_append_of_bracketRest h
      have hround := bracketRound_front hround (.inr hne)
      have hlength := (bracketRound_suffix hround).length_le
      have hskipLength := skip_length_le f cs
      have hpos := List.length_pos_iff.mpr hne
      rw [List.length_tail] at hlength
      rw [hround]
      exact ih h (by omega)

theorem bracket_suffix (h : f.bracket cs = some (part, rest)) : rest <:+ cs :=
  (((bracketRest_suffix h).trans (List.tail_suffix _)).trans (skip_suffix f _)).trans
    (openBracket_suffix cs)

theorem bracket_front (h : f.bracket (cs ++ ending) = some (part, rest ++ ending)) :
    f.bracket cs = some (part, rest) := by
  unfold Flags.bracket at h ⊢
  dsimp only at h ⊢
  obtain ⟨after, hafter, -⟩ := exists_append_of_bracketRest h
  rw [openBracket_front (Prod.ext rfl hafter)]
  rw [hafter] at h
  exact bracketRest_front h (Nat.lt_succ_self _)

end Brackets

end LineShell.Pattern
