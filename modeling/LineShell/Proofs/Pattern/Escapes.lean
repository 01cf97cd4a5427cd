import LineShell.Pattern.Atom
import Mathlib.Data.List.TakeDrop

/-!
# Reading in front of an ending

A pattern may be enclosed in a group: an opening parenthesis stands in front of its text and the
`ending` behind it. Every reader satisfies two facts, which are named after it.

1. What it leaves is a suffix of what it was given (`_suffix`).
2. If it leaves the ending whole, then it reads the same without the ending (`_front`).

The second holds because the ending starts with a parenthesis, which continues nothing. Only `\b{`
is an exception: with the ending behind it the brace is read as a repetition (`Dangling`).

This module has the facts for characters, blanks and escapes.
-/

namespace LineShell.Pattern

/-- What stands behind an enclosed pattern: the parenthesis that closes its group, and a condition
on the place after it. -/
def ending : List Char := [')', '\\', 'b']

/-- What is left of the ending after its parenthesis. -/
def afterGroup : List Char := ['\\', 'b']

/-! ## Texts with the ending behind them -/

section Lists

variable {cs rest : List Char}

theorem not_suffix_afterGroup : ¬rest ++ ending <:+ afterGroup := by
  intro h
  have hlength := h.length_le
  simp [ending, afterGroup] at hlength

theorem not_suffix_nil : ¬rest ++ ending <:+ [] := fun h =>
  not_suffix_afterGroup (h.trans List.nil_suffix)

theorem exists_append_of_suffix (h : rest ++ ending <:+ cs) : ∃ ds, cs = ds ++ ending := by
  obtain ⟨front, rfl⟩ := h
  exact ⟨front ++ rest, (List.append_assoc front rest ending).symm⟩

theorem eq_cons_of_append_ending {c : Char} (hc : c ≠ ')') (h : cs ++ ending = c :: rest) :
    ∃ ds, cs = c :: ds ∧ rest = ds ++ ending := by
  cases cs with
  | nil => exact absurd (List.cons.inj h).1.symm hc
  | cons d ds =>
    obtain ⟨rfl, rfl⟩ := List.cons.inj h
    exact ⟨ds, rfl, rfl⟩

theorem not_append_of_not_append (front : List Char) (h : ∀ t, cs ++ ending = front ++ t → False)
    (t : List Char) (ht : cs = front ++ t) : False :=
  h (t ++ ending) (by rw [ht, List.append_assoc])

theorem suffix_append_cases (h : rest <:+ cs ++ ending) :
    (∃ ds, rest = ds ++ ending ∧ ds <:+ cs) ∨ rest <:+ afterGroup := by
  obtain ⟨front, hfront⟩ := h
  rcases List.append_eq_append_iff.mp hfront with ⟨ds, rfl, rfl⟩ | ⟨taken, -, htaken⟩
  · exact .inl ⟨ds, rfl, List.suffix_append front ds⟩
  · cases taken with
    | nil => exact .inl ⟨[], htaken.symm, List.nil_suffix⟩
    | cons c taken =>
      rw [ending, List.cons_append, List.cons.injEq] at htaken
      exact .inr ⟨taken, htaken.2.symm⟩

theorem span_eq_cons_iff {p : Char → Bool} {name rest : List Char} {c : Char} :
    cs.span p = (name, c :: rest) ↔
      cs = name ++ c :: rest ∧ (∀ d ∈ name, p d = true) ∧ p c = false := by
  rw [List.span_eq_takeWhile_dropWhile, Prod.mk.injEq]
  constructor
  · rintro ⟨rfl, hrest⟩
    refine ⟨?_, List.all_eq_true.mp List.all_takeWhile, ?_⟩
    · rw [← hrest, List.takeWhile_append_dropWhile]
    · have hhead := List.head?_dropWhile_not p cs
      rw [hrest] at hhead
      exact hhead
  · rintro ⟨rfl, hname, hc⟩
    rw [List.takeWhile_append_of_pos hname, List.dropWhile_append_of_pos hname]
    simp [hc]

end Lists

/-! ## Blanks, comments and runs of characters -/

section Loose

theorem dropLoose_suffix (inComment : Bool) (cs : List Char) : dropLoose inComment cs <:+ cs := by
  induction cs generalizing inComment with
  | nil => exact List.suffix_refl []
  | cons c cs ih =>
    have hrest (b : Bool) : dropLoose b cs <:+ c :: cs := (ih b).trans (List.suffix_cons c cs)
    unfold dropLoose
    repeat' split
    · exact hrest _
    · exact hrest _
    · exact hrest _
    · exact List.suffix_refl (c :: cs)

/-- A comment at the end of the pattern takes the ending too. -/
theorem dropLoose_append (inComment : Bool) (cs : List Char) :
    dropLoose inComment (cs ++ ending) = dropLoose inComment cs ++ ending ∨
      dropLoose inComment (cs ++ ending) = [] := by
  induction cs generalizing inComment with
  | nil =>
    cases inComment
    · exact .inl (by decide)
    · exact .inr (by decide)
  | cons c cs ih =>
    rw [List.cons_append, dropLoose, dropLoose]
    repeat' split
    · exact ih _
    · exact ih _
    · exact ih _
    · exact .inl rfl

variable (f : Flags)

theorem skip_suffix (cs : List Char) : f.skip cs <:+ cs := by
  unfold Flags.skip
  split
  · exact dropLoose_suffix false cs
  · exact List.suffix_refl cs

theorem skip_append (cs : List Char) :
    f.skip (cs ++ ending) = f.skip cs ++ ending ∨ f.skip (cs ++ ending) = [] := by
  unfold Flags.skip
  split
  · exact dropLoose_append false cs
  · exact .inl rfl

theorem skip_length_le (cs : List Char) : (f.skip cs).length ≤ cs.length :=
  (skip_suffix f cs).length_le

@[simp] theorem skip_nil : f.skip [] = [] := by
  unfold Flags.skip
  split <;> rfl

theorem dropWhile_append_ending (cs : List Char) :
    (cs ++ ending).dropWhile Text.isBlank = cs.dropWhile Text.isBlank ++ ending := by
  induction cs with
  | nil => decide
  | cons c cs ih =>
    rw [List.cons_append, List.dropWhile_cons, List.dropWhile_cons]
    split
    · exact ih
    · rfl

variable {f} {p : Char → Bool} {n : Nat} {cs rest : List Char}

theorem skip_append_of_suffix (h : rest ++ ending <:+ f.skip (cs ++ ending)) :
    f.skip (cs ++ ending) = f.skip cs ++ ending := by
  rcases skip_append f cs with happend | hnil
  · exact happend
  · rw [hnil] at h
    exact absurd h not_suffix_nil

theorem collect_nil (p : Char → Bool) (n : Nat) : f.collect p n [] = ([], []) := by
  cases n <;> rfl

theorem collect_cons_of_pos {c : Char} (hp : p c = true) :
    f.collect p (n + 1) (c :: cs) =
      (c :: (f.collect p n (f.skip cs)).1, (f.collect p n (f.skip cs)).2) := by
  rw [Flags.collect, if_pos hp]

theorem collect_cons_of_neg {c : Char} (hp : ¬p c = true) :
    f.collect p n (c :: cs) = ([], c :: cs) := by
  cases n with
  | zero => rfl
  | succ n => rw [Flags.collect, if_neg hp]

theorem collect_suffix (p : Char → Bool) (n : Nat) (cs : List Char) :
    (f.collect p n cs).2 <:+ cs := by
  induction n generalizing cs with
  | zero => exact List.suffix_refl cs
  | succ n ih =>
    cases cs with
    | nil => exact List.suffix_refl []
    | cons c cs =>
      unfold Flags.collect
      split
      · exact ((ih (f.skip cs)).trans (skip_suffix f cs)).trans (List.suffix_cons c cs)
      · exact List.suffix_refl (c :: cs)

/-- The bound on the number of characters does not matter if it is no less than that number. -/
theorem collect_eq_of_le (p : Char → Bool) {m n : Nat} {cs : List Char} (hm : cs.length ≤ m)
    (hn : cs.length ≤ n) : f.collect p m cs = f.collect p n cs := by
  induction m generalizing n cs with
  | zero =>
    rw [List.length_eq_zero_iff.mp (Nat.le_zero.mp hm), collect_nil, collect_nil]
  | succ m ih =>
    cases cs with
    | nil => rw [collect_nil, collect_nil]
    | cons c cs =>
      cases n with
      | zero => simp at hn
      | succ n =>
        have hlength := skip_length_le f cs
        simp only [List.length_cons, Nat.add_le_add_iff_right] at hm hn
        rw [Flags.collect, Flags.collect, ih (Nat.le_trans hlength hm) (Nat.le_trans hlength hn)]

theorem collect_append_of_suffix (h : rest ++ ending <:+ (f.collect p n (cs ++ ending)).2) :
    f.collect p n (cs ++ ending) =
      ((f.collect p n cs).1, (f.collect p n cs).2 ++ ending) := by
  induction n generalizing cs with
  | zero => rfl
  | succ n ih =>
    cases cs with
    | nil =>
      by_cases hp : p ')'
      · -- The ending is not left whole if its parenthesis is taken.
        unfold ending at h
        rw [List.nil_append, collect_cons_of_pos hp] at h
        have hsuffix := (h.trans (collect_suffix p n _)).trans (skip_suffix f _)
        exact absurd hsuffix not_suffix_afterGroup
      · exact collect_cons_of_neg hp
    | cons c cs =>
      by_cases hp : p c
      · rw [List.cons_append, collect_cons_of_pos hp] at h ⊢
        have hskip := skip_append_of_suffix (h.trans (collect_suffix p n (f.skip (cs ++ ending))))
        rw [hskip] at h ⊢
        rw [collect_cons_of_pos hp, ih h]
      · rw [List.cons_append, collect_cons_of_neg hp, collect_cons_of_neg hp, List.cons_append]

theorem skip_front (h : f.skip (cs ++ ending) = rest ++ ending) : f.skip cs = rest := by
  rw [skip_append_of_suffix ⟨[], h.symm⟩] at h
  exact List.append_cancel_right h

theorem skip_cons_front {c : Char} (h : f.skip (cs ++ ending) = c :: (rest ++ ending)) :
    f.skip cs = c :: rest :=
  skip_front h

theorem collect_front {taken : List Char}
    (h : f.collect p n (cs ++ ending) = (taken, rest ++ ending)) :
    f.collect p n cs = (taken, rest) := by
  rw [collect_append_of_suffix ⟨[], (congrArg Prod.snd h).symm⟩, Prod.mk.injEq] at h
  exact Prod.ext h.1 (List.append_cancel_right h.2)

theorem collect_skip_suffix {c : Char} (h : (f.collect p n (f.skip cs)).2 = c :: rest) :
    rest <:+ cs := by
  have hsuffix := collect_suffix (f := f) p n (f.skip cs)
  rw [h] at hsuffix
  exact ((List.suffix_cons c rest).trans hsuffix).trans (skip_suffix f cs)

/-- A run up to the character that ends it, the bound being the length of the rest. -/
theorem collect_skip_front {c : Char}
    (h : (f.collect p (cs ++ ending).length (f.skip (cs ++ ending))).2 = c :: (rest ++ ending)) :
    f.collect p cs.length (f.skip cs) =
      ((f.collect p (cs ++ ending).length (f.skip (cs ++ ending))).1, c :: rest) := by
  have hsuffix := collect_suffix (f := f) p (cs ++ ending).length (f.skip (cs ++ ending))
  rw [h, ← List.cons_append] at hsuffix
  rw [skip_append_of_suffix hsuffix] at h ⊢
  rw [← List.cons_append] at h
  rw [← collect_front (Prod.ext rfl h)]
  apply collect_eq_of_le p (skip_length_le f cs)
  have hlength := skip_length_le f cs
  rw [List.length_append]
  omega

end Loose

/-! ## Escapes -/

section Escapes

variable {f : Flags} {cs rest : List Char} {x : Atom} {width : Nat}

theorem hexEscape_suffix (h : f.hexEscape width cs = some (x, rest)) : rest <:+ f.skip cs := by
  unfold Flags.hexEscape at h
  split at h
  case h_1 inner hinner =>
    obtain ⟨c, -, h⟩ := Option.bind_eq_some_iff.mp h
    split at h
    case h_1 after hafter =>
      obtain ⟨-, rfl⟩ := Prod.mk.inj (Option.some.inj h)
      rw [hinner]
      exact ((skip_suffix f after).trans (collect_skip_suffix hafter)).trans
        (List.suffix_cons _ inner)
    case h_2 => cases h
  case h_2 inner hinner =>
    dsimp only at h
    split at h
    · obtain ⟨c, -, h⟩ := Option.bind_eq_some_iff.mp h
      obtain ⟨-, rfl⟩ := Prod.mk.inj (Option.some.inj h)
      exact collect_suffix _ width _
    · cases h

theorem hexEscape_front (h : f.hexEscape width (cs ++ ending) = some (x, rest ++ ending)) :
    f.hexEscape width cs = some (x, rest) := by
  have hskip := skip_append_of_suffix (hexEscape_suffix h)
  unfold Flags.hexEscape at h ⊢
  rw [hskip] at h
  split at h
  case h_1 inner hinner =>
    obtain ⟨ds, hds, rfl⟩ := eq_cons_of_append_ending (by decide) hinner
    obtain ⟨c, hc, h⟩ := Option.bind_eq_some_iff.mp h
    split at h
    case h_1 after hafter =>
      obtain ⟨rfl, hrest⟩ := Prod.mk.inj (Option.some.inj h)
      obtain ⟨after, rfl⟩ := exists_append_of_suffix (hrest ▸ skip_suffix f after)
      have htaken := collect_skip_front hafter
      simp only [hds, htaken, hc, skip_front hrest, Option.bind_eq_bind, Option.bind_some]
    case h_2 => cases h
  case h_2 inner hinner =>
    dsimp only at h
    split at h
    case isTrue hwidth =>
      obtain ⟨c, hc, h⟩ := Option.bind_eq_some_iff.mp h
      obtain ⟨rfl, hrest⟩ := Prod.mk.inj (Option.some.inj h)
      have htaken := collect_front (Prod.ext rfl hrest)
      split
      case h_1 after hafter =>
        rw [hafter] at hinner
        exact absurd rfl (hinner (after ++ ending))
      case h_2 =>
        simp only [htaken, hc, if_pos hwidth, Option.bind_eq_bind, Option.bind_some]
    case isFalse => cases h

theorem propertyEscape_suffix {negated : Bool} (h : f.propertyEscape negated cs = some (x, rest)) :
    rest <:+ f.skip cs := by
  unfold Flags.propertyEscape at h
  dsimp only at h
  split at h
  case h_1 => cases h
  case h_2 => cases h
  case h_3 inner hinner =>
    split at h
    case h_1 after hafter =>
      obtain ⟨s, -, h⟩ := Option.bind_eq_some_iff.mp h
      split at h
      case isTrue =>
        obtain ⟨t, -, h⟩ := Option.bind_eq_some_iff.mp h
        obtain ⟨-, rfl⟩ := Prod.mk.inj (Option.some.inj h)
        rw [hinner]
        exact (collect_skip_suffix hafter).trans (List.suffix_cons _ inner)
      case isFalse => cases h
    case h_2 => cases h
  case h_4 c inner _ _ hinner =>
    obtain ⟨s, -, h⟩ := Option.bind_eq_some_iff.mp h
    split at h
    case isTrue =>
      obtain ⟨t, -, h⟩ := Option.bind_eq_some_iff.mp h
      obtain ⟨-, rfl⟩ := Prod.mk.inj (Option.some.inj h)
      rw [hinner]
      exact (skip_suffix f inner).trans (List.suffix_cons _ inner)
    case isFalse => cases h

theorem propertyEscape_front {negated : Bool}
    (h : f.propertyEscape negated (cs ++ ending) = some (x, rest ++ ending)) :
    f.propertyEscape negated cs = some (x, rest) := by
  have hskip := skip_append_of_suffix (propertyEscape_suffix h)
  unfold Flags.propertyEscape at h ⊢
  dsimp only at h ⊢
  rw [hskip] at h
  split at h
  case h_1 => cases h
  case h_2 => cases h
  case h_3 inner hinner =>
    obtain ⟨ds, hds, rfl⟩ := eq_cons_of_append_ending (by decide) hinner
    split at h
    case h_1 after hafter =>
      obtain ⟨s, hs, h⟩ := Option.bind_eq_some_iff.mp h
      split at h
      case isTrue hunicode =>
        obtain ⟨t, ht, h⟩ := Option.bind_eq_some_iff.mp h
        obtain ⟨rfl, rfl⟩ := Prod.mk.inj (Option.some.inj h)
        have htaken := collect_skip_front hafter
        simp only [hds, htaken, hs, ht, hunicode, Option.bind_eq_bind, Option.bind_some, if_true]
      case isFalse => cases h
    case h_2 => cases h
  case h_4 c inner hslash hbrace hinner =>
    obtain ⟨s, hs, h⟩ := Option.bind_eq_some_iff.mp h
    split at h
    case isTrue hunicode =>
      obtain ⟨t, ht, h⟩ := Option.bind_eq_some_iff.mp h
      obtain ⟨rfl, hrest⟩ := Prod.mk.inj (Option.some.inj h)
      obtain ⟨ds, rfl⟩ := exists_append_of_suffix (hrest ▸ skip_suffix f inner)
      have hds : f.skip cs = c :: ds := List.append_cancel_right hinner
      simp only [hds, hs, ht, hunicode, skip_front hrest, Option.bind_eq_bind, Option.bind_some,
        if_true]
    case isFalse => cases h

/-- The atom is a condition and an opening brace is left with nothing behind it. Alone it would be a
name that is cut off; with the ending behind it, it is a repetition without a number. -/
def Dangling (f : Flags) (x : Atom) (rest : List Char) : Prop :=
  (∃ condition, x = .look condition) ∧ ∃ inner, rest = '{' :: inner ∧ f.skip inner = []

theorem boundaryEscape_suffix (h : f.boundaryEscape cs = some (x, rest)) : rest <:+ cs := by
  unfold Flags.boundaryEscape at h
  dsimp only at h
  split at h
  case h_1 inner =>
    split at h
    case h_1 => cases h
    case h_2 c _ _ =>
      split at h
      · split at h
        case h_1 after hafter =>
          obtain ⟨edge, -, h⟩ := Option.bind_eq_some_iff.mp h
          obtain ⟨-, rfl⟩ := Prod.mk.inj (Option.some.inj h)
          exact (collect_skip_suffix hafter).trans (List.suffix_cons _ inner)
        case h_2 => cases h
      · obtain ⟨-, rfl⟩ := Prod.mk.inj (Option.some.inj h)
        exact List.suffix_refl _
  case h_2 =>
    obtain ⟨-, rfl⟩ := Prod.mk.inj (Option.some.inj h)
    exact List.suffix_refl _

theorem boundaryEscape_front (h : f.boundaryEscape (cs ++ ending) = some (x, rest ++ ending)) :
    f.boundaryEscape cs = some (x, rest) ∨ Dangling f x rest := by
  unfold Flags.boundaryEscape at h
  dsimp only at h
  split at h
  case h_1 inner hinner =>
    obtain ⟨ds, rfl, rfl⟩ := eq_cons_of_append_ending (by decide) hinner
    rcases skip_append f ds with hskip | hskip
    · cases hds : f.skip ds with
      | nil =>
        -- The parenthesis of the ending starts no name, so the brace is left for a repetition.
        rw [hskip, hds] at h
        obtain ⟨rfl, hrest⟩ := Prod.mk.inj (Option.some.inj h)
        exact .inr ⟨⟨_, rfl⟩, ds, (List.append_cancel_right hrest).symm, hds⟩
      | cons c after =>
        left
        rw [hskip, hds] at h
        dsimp only [List.cons_append] at h
        split at h
        case isTrue hc =>
          split at h
          case h_1 after hafter =>
            obtain ⟨edge, hedge, h⟩ := Option.bind_eq_some_iff.mp h
            obtain ⟨rfl, rfl⟩ := Prod.mk.inj (Option.some.inj h)
            rw [← List.cons_append, ← hds, ← hskip] at hafter hedge
            have htaken := collect_skip_front hafter
            rw [hds] at htaken
            simp only [Flags.boundaryEscape, hds, if_pos hc, htaken, hedge, Option.bind_eq_bind,
              Option.bind_some]
          case h_2 => cases h
        case isFalse hc =>
          obtain ⟨rfl, hrest⟩ := Prod.mk.inj (Option.some.inj h)
          obtain rfl : '{' :: ds = rest := List.append_cancel_right hrest
          simp only [Flags.boundaryEscape, hds, if_neg hc]
    · -- A comment runs to the end of the text.
      rw [hskip] at h
      cases h
  case h_2 hbrace =>
    left
    obtain ⟨rfl, hrest⟩ := Prod.mk.inj (Option.some.inj h)
    obtain rfl := List.append_cancel_right hrest
    unfold Flags.boundaryEscape
    dsimp only
    split
    case h_1 inner => exact absurd rfl (hbrace (inner ++ ending))
    case h_2 => rfl

theorem classEscape_suffix {negated : Bool} {s : CharSet} {ranges : Nat}
    (h : f.classEscape negated s ranges cs = some (x, rest)) : rest = cs := by
  obtain ⟨t, -, h⟩ := Option.bind_eq_some_iff.mp h
  exact (Prod.mk.inj (Option.some.inj h)).2.symm

theorem classEscape_front {negated : Bool} {s : CharSet} {ranges : Nat}
    (h : f.classEscape negated s ranges (cs ++ ending) = some (x, rest ++ ending)) :
    f.classEscape negated s ranges cs = some (x, rest) := by
  obtain ⟨t, ht, h⟩ := Option.bind_eq_some_iff.mp h
  obtain ⟨rfl, hrest⟩ := Prod.mk.inj (Option.some.inj h)
  exact Option.bind_eq_some_iff.mpr ⟨t, ht, by rw [List.append_cancel_right hrest]⟩

theorem escape_suffix (h : f.escape cs = some (x, rest)) : rest <:+ cs.tail := by
  have hsame {cs : List Char} {y : Atom} (h : some (y, cs) = some (x, rest)) : rest <:+ cs := by
    obtain ⟨-, rfl⟩ := Prod.mk.inj (Option.some.inj h)
    exact List.suffix_refl cs
  unfold Flags.escape at h
  split at h
  case h_1 => cases h
  case h_2 | h_3 | h_4 => exact (hexEscape_suffix h).trans (skip_suffix f _)
  case h_5 | h_6 => exact (propertyEscape_suffix h).trans (skip_suffix f _)
  case h_7 | h_8 | h_9 | h_10 | h_11 | h_12 =>
    rw [classEscape_suffix h]
    exact List.suffix_refl _
  case h_21 => exact boundaryEscape_suffix h
  case h_25 =>
    split at h
    · exact hsame h
    · cases h
  all_goals exact hsame h

theorem escape_front (h : f.escape (cs ++ ending) = some (x, rest ++ ending)) :
    f.escape cs = some (x, rest) ∨ Dangling f x rest := by
  have hsame {cs : List Char} {y : Atom} (h : some (y, cs ++ ending) = some (x, rest ++ ending)) :
      some (y, cs) = some (x, rest) := by
    obtain ⟨rfl, hrest⟩ := Prod.mk.inj (Option.some.inj h)
    rw [List.append_cancel_right hrest]
  cases cs with
  | nil => exact absurd (escape_suffix h) not_suffix_afterGroup
  | cons c cs =>
    unfold Flags.escape at h
    split at h
    case h_1 heq => cases heq
    -- Only the letter `b` looks at what follows and leaves it.
    case h_21 heq =>
      obtain ⟨rfl, rfl⟩ := List.cons.inj heq
      exact boundaryEscape_front h
    all_goals
      rename_i heq
      obtain ⟨rfl, rfl⟩ := List.cons.inj heq
      left
    case h_2 | h_3 | h_4 => exact hexEscape_front h
    case h_5 | h_6 => exact propertyEscape_front h
    case h_7 | h_8 | h_9 | h_10 | h_11 | h_12 => exact classEscape_front h
    case h_25 =>
      split at h
      case isTrue hc =>
        simp only [Flags.escape, if_pos hc]
        exact hsame h
      case isFalse => cases h
    all_goals exact hsame h

end Escapes

end LineShell.Pattern
