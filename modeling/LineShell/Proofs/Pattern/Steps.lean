import LineShell.Pattern.Reader
import LineShell.Proofs.Pattern.Brackets

/-!
# Steps in front of an ending

A repetition ends with its closing brace, a name with an angle bracket and flags with a colon or a
parenthesis of their own. So what one step of the reader takes is the same with the ending behind it
(`step_front`), but for the brace after `\b`. That brace leads nowhere: the ending has no number, so
there is no repetition right in front of it (`repeatRange_ending`).
-/

namespace LineShell.Pattern

section Signs

variable {f : Flags} {cs rest : List Char}

/-! ## Repetitions -/

theorem dropLazy_suffix (cs : List Char) : dropLazy cs <:+ cs := by
  unfold dropLazy
  split
  · exact List.suffix_cons _ _
  · exact List.suffix_refl _

theorem dropLazy_front (h : dropLazy (cs ++ ending) = rest ++ ending) : dropLazy cs = rest := by
  cases cs with
  | nil => exact List.append_cancel_right h
  | cons c cs =>
    unfold dropLazy at h ⊢
    split at h
    case h_1 heq =>
      obtain ⟨rfl, rfl⟩ := List.cons.inj heq
      exact List.append_cancel_right h
    case h_2 hmark =>
      split
      case h_1 heq => exact (hmark _ (congrArg (· ++ ending) heq)).elim
      case h_2 => exact List.append_cancel_right h

theorem repeatNumber_suffix {n : Nat} (h : f.repeatNumber cs = some (n, rest)) : rest <:+ cs := by
  unfold Flags.repeatNumber at h
  dsimp only at h
  split at h
  · cases h
  · obtain ⟨-, rfl⟩ := Prod.mk.inj (Option.some.inj h)
    exact (((skip_suffix f _).trans (List.dropWhile_suffix _)).trans (collect_suffix _ _ _)).trans
      (List.dropWhile_suffix _)

theorem repeatNumber_front {n : Nat}
    (h : f.repeatNumber (cs ++ ending) = some (n, rest ++ ending)) :
    f.repeatNumber cs = some (n, rest) := by
  unfold Flags.repeatNumber at h
  dsimp only at h
  split at h
  case isTrue => cases h
  case isFalse hvalid =>
    obtain ⟨rfl, hrest⟩ := Prod.mk.inj (Option.some.inj h)
    rw [dropWhile_append_ending] at hrest hvalid
    obtain ⟨after, hafter⟩ := exists_append_of_suffix
      ((hrest ▸ skip_suffix f _ : rest ++ ending <:+ _).trans (List.dropWhile_suffix _))
    rw [hafter, dropWhile_append_ending] at hrest
    have htaken := collect_front (Prod.ext rfl hafter)
    have hle := (List.dropWhile_suffix Text.isBlank (l := cs)).length_le
    unfold Flags.repeatNumber
    dsimp only
    rw [dropWhile_append_ending,
      collect_eq_of_le _ hle (n := (cs ++ ending).length) (by simp; omega), htaken]
    dsimp only
    rw [if_neg hvalid, skip_front hrest]

theorem dropLazy_skip_suffix (cs : List Char) : dropLazy (f.skip cs) <:+ cs :=
  (dropLazy_suffix _).trans (skip_suffix f cs)

theorem dropLazy_skip_front (h : dropLazy (f.skip (cs ++ ending)) = rest ++ ending) :
    dropLazy (f.skip cs) = rest := by
  have hsuffix := h ▸ dropLazy_suffix (f.skip (cs ++ ending))
  rw [skip_append_of_suffix hsuffix] at h
  exact dropLazy_front h

/-- Reads what follows the first number of a repetition. -/
def Flags.rangeEnd (f : Flags) (least : Nat) (cs : List Char) :
    Option (Nat × Option Nat × List Char) :=
  match cs with
  | '}' :: rest => some (least, some least, dropLazy (f.skip rest))
  | ',' :: cs =>
    match f.skip cs with
    | '}' :: rest => some (least, none, dropLazy (f.skip rest))
    | cs => do
      let (most, cs) ← f.repeatNumber cs
      match cs with
      | '}' :: rest =>
        if least ≤ most then some (least, some most, dropLazy (f.skip rest)) else none
      | _ => none
  | _ => none

theorem repeatRange_eq (cs : List Char) :
    f.repeatRange cs =
      (f.repeatNumber (f.skip cs)).bind fun (least, rest) => f.rangeEnd least rest := rfl

theorem rangeEnd_suffix {least least' : Nat} {most : Option Nat}
    (h : f.rangeEnd least cs = some (least', most, rest)) : rest <:+ cs := by
  unfold Flags.rangeEnd at h
  split at h
  case h_1 after =>
    cases h
    exact (dropLazy_skip_suffix after).trans (List.suffix_cons _ after)
  case h_2 inner =>
    have hskip := skip_suffix f inner
    apply List.IsSuffix.trans _ (List.suffix_cons _ inner)
    split at h
    case h_1 after hafter =>
      cases h
      rw [hafter] at hskip
      exact ((dropLazy_skip_suffix after).trans (List.suffix_cons _ after)).trans hskip
    case h_2 =>
      obtain ⟨⟨number, after⟩, hnumber, h⟩ := Option.bind_eq_some_iff.mp h
      dsimp only at h
      split at h
      case h_1 after =>
        split at h
        case isTrue =>
          cases h
          exact ((dropLazy_skip_suffix after).trans (List.suffix_cons _ after)).trans
            ((repeatNumber_suffix hnumber).trans hskip)
        case isFalse => cases h
      case h_2 => cases h
  case h_3 => cases h

theorem rangeEnd_front {least least' : Nat} {most : Option Nat}
    (h : f.rangeEnd least (cs ++ ending) = some (least', most, rest ++ ending)) :
    f.rangeEnd least cs = some (least', most, rest) := by
  unfold Flags.rangeEnd at h
  split at h
  case h_1 after hafter =>
    obtain ⟨ds, rfl, rfl⟩ := eq_cons_of_append_ending (by decide) hafter
    simp only [Option.some.injEq, Prod.mk.injEq] at h
    obtain ⟨rfl, rfl, hrest⟩ := h
    rw [Flags.rangeEnd, dropLazy_skip_front hrest]
  case h_2 inner hinner =>
    obtain ⟨ds, rfl, rfl⟩ := eq_cons_of_append_ending (by decide) hinner
    split at h
    case h_1 after hafter =>
      simp only [Option.some.injEq, Prod.mk.injEq] at h
      obtain ⟨rfl, rfl, hrest⟩ := h
      obtain ⟨after, rfl⟩ := exists_append_of_suffix (hrest ▸ dropLazy_skip_suffix after)
      have hskip := skip_cons_front hafter
      simp only [Flags.rangeEnd, hskip, dropLazy_skip_front hrest]
    case h_2 hbrace =>
      obtain ⟨⟨number, after⟩, hnumber, h⟩ := Option.bind_eq_some_iff.mp h
      dsimp only at h
      split at h
      case h_1 after =>
        split at h
        case isTrue hle =>
          simp only [Option.some.injEq, Prod.mk.injEq] at h
          obtain ⟨rfl, rfl, hrest⟩ := h
          obtain ⟨after, rfl⟩ := exists_append_of_suffix (hrest ▸ dropLazy_skip_suffix after)
          rw [← List.cons_append] at hnumber
          have hskip := skip_append_of_suffix (repeatNumber_suffix hnumber)
          rw [hskip] at hnumber hbrace
          have hnumber := repeatNumber_front hnumber
          have hbrace (t : List Char) (ht : f.skip ds = '}' :: t) : False :=
            hbrace (t ++ ending) (congrArg (· ++ ending) ht)
          simp only [Flags.rangeEnd, hnumber, if_pos hle, dropLazy_skip_front hrest,
            Option.bind_eq_bind, Option.bind_some]
        case isFalse => cases h
      case h_2 => cases h
  case h_3 => cases h

theorem repeatRange_suffix {least : Nat} {most : Option Nat}
    (h : f.repeatRange cs = some (least, most, rest)) : rest <:+ cs := by
  rw [repeatRange_eq] at h
  obtain ⟨⟨number, after⟩, hnumber, h⟩ := Option.bind_eq_some_iff.mp h
  exact ((rangeEnd_suffix h).trans (repeatNumber_suffix hnumber)).trans (skip_suffix f cs)

theorem repeatRange_front {least : Nat} {most : Option Nat}
    (h : f.repeatRange (cs ++ ending) = some (least, most, rest ++ ending)) :
    f.repeatRange cs = some (least, most, rest) := by
  rw [repeatRange_eq] at h ⊢
  obtain ⟨⟨number, after⟩, hnumber, h⟩ := Option.bind_eq_some_iff.mp h
  obtain ⟨after, rfl⟩ := exists_append_of_suffix (rangeEnd_suffix h)
  rw [skip_append_of_suffix (repeatNumber_suffix hnumber)] at hnumber
  rw [repeatNumber_front hnumber]
  exact rangeEnd_front h

theorem repeatNumber_ending : f.repeatNumber ([] ++ ending) = none := by
  have hcollect : f.collect Char.isDigit 3 ending = ([], ending) :=
    collect_cons_of_neg (by decide)
  unfold Flags.repeatNumber
  rw [dropWhile_append_ending]
  dsimp only [List.dropWhile_nil, List.nil_append]
  rw [show ending.length = 3 from rfl, hcollect]
  rfl

/-- A repetition starts with a number, and the ending does not. -/
theorem repeatRange_ending (h : f.skip cs = []) : f.repeatRange (cs ++ ending) = none := by
  rw [repeatRange_eq]
  rcases skip_append f cs with hskip | hskip
  · rw [hskip, h, repeatNumber_ending]
    rfl
  · rw [hskip]
    rfl

/-! ## Flags and names -/

theorem change_suffix {on isDirective : Bool} {seen : List Char} {g : Flags}
    (h : f.change on seen cs = some (g, isDirective, rest)) : rest <:+ cs.tail := by
  induction cs generalizing f on seen with
  | nil => cases h
  | cons c cs ih =>
    have hlater {f : Flags} {on : Bool} {seen : List Char}
        (h : f.change on seen cs = some (g, isDirective, rest)) : rest <:+ cs :=
      (ih h).trans (List.tail_suffix cs)
    unfold Flags.change at h
    rw [List.tail_cons]
    split at h
    case isTrue =>
      split at h
      · cases h
      · cases h
        exact List.suffix_refl _
    case isFalse =>
      repeat' split at h
      · cases h
      · exact hlater h
      · exact hlater h
      · cases h

theorem change_front {on isDirective : Bool} {seen : List Char} {g : Flags}
    (h : f.change on seen (cs ++ ending) = some (g, isDirective, rest ++ ending)) :
    f.change on seen cs = some (g, isDirective, rest) := by
  induction cs generalizing f on seen with
  | nil => exact absurd (change_suffix h) not_suffix_afterGroup
  | cons c cs ih =>
    rw [List.cons_append] at h
    unfold Flags.change at h ⊢
    split at h
    case isTrue hend =>
      rw [if_pos hend]
      split at h
      case isTrue => cases h
      case isFalse hvalid =>
        rw [if_neg hvalid]
        simp only [Option.some.injEq, Prod.mk.injEq] at h ⊢
        exact ⟨h.1, h.2.1, List.append_cancel_right h.2.2⟩
    case isFalse hend =>
      rw [if_neg hend]
      split at h
      case isTrue => cases h
      case isFalse hseen =>
        rw [if_neg hseen]
        split at h
        case isTrue hminus =>
          rw [if_pos hminus]
          exact ih h
        case isFalse hminus =>
          rw [if_neg hminus]
          split at h
          case h_1 => exact ih h
          case h_2 => cases h

theorem groupName_suffix {name : String} (h : groupName cs = some (name, rest)) : rest <:+ cs := by
  unfold groupName at h
  split at h
  case h_1 c letters d after hspan =>
    obtain ⟨rfl, -⟩ := span_eq_cons_iff.mp hspan
    dsimp only at h
    split at h
    case isTrue =>
      obtain ⟨-, rfl⟩ := Prod.mk.inj (Option.some.inj h)
      exact (List.suffix_cons d after).trans (List.suffix_append _ _)
    case isFalse => cases h
  case h_2 => cases h

theorem groupName_front {name : String}
    (h : groupName (cs ++ ending) = some (name, rest ++ ending)) :
    groupName cs = some (name, rest) := by
  unfold groupName at h
  split at h
  case h_1 c letters d after hspan =>
    obtain ⟨hcs, hletters, hd⟩ := span_eq_cons_iff.mp hspan
    dsimp only at h
    split at h
    case isTrue hvalid =>
      obtain ⟨rfl, rfl⟩ := Prod.mk.inj (Option.some.inj h)
      have hcs : cs = c :: letters ++ d :: rest :=
        List.append_cancel_right (hcs.trans (List.append_assoc _ (d :: rest) ending).symm)
      have hspan := span_eq_cons_iff.mpr ⟨hcs, hletters, hd⟩
      simp only [groupName, hspan, if_pos hvalid]
    case isFalse => cases h
  case h_2 => cases h

end Signs

namespace State

variable {s t : State} {cs rest : List Char} {c : Char}

/-! ## Groups and steps -/

theorem openNamed_suffix (h : s.openNamed cs = some (t, rest)) : rest <:+ cs := by
  obtain ⟨⟨name, after⟩, hname, h⟩ := Option.bind_eq_some_iff.mp h
  dsimp only at h
  split at h
  case isTrue => cases h
  case isFalse =>
    obtain ⟨-, rfl⟩ := Prod.mk.inj (Option.some.inj h)
    exact groupName_suffix hname

theorem openNamed_front (h : s.openNamed (cs ++ ending) = some (t, rest ++ ending)) :
    s.openNamed cs = some (t, rest) := by
  obtain ⟨⟨name, after⟩, hname, h⟩ := Option.bind_eq_some_iff.mp h
  dsimp only at h
  split at h
  case isTrue => cases h
  case isFalse hnew =>
    obtain ⟨rfl, rfl⟩ := Prod.mk.inj (Option.some.inj h)
    simp only [openNamed, groupName_front hname, if_neg hnew, Option.bind_eq_bind, Option.bind_some]

theorem opening_suffix (h : s.opening cs = some (t, rest)) : rest <:+ s.flags.skip cs := by
  unfold opening at h
  split at h
  case h_1 | h_2 | h_3 | h_4 => cases h
  case h_5 inner hinner =>
    rw [hinner]
    exact (openNamed_suffix h).trans (List.suffix_append ['?', 'P', '<'] inner)
  case h_6 inner _ _ hinner =>
    rw [hinner]
    exact (openNamed_suffix h).trans (List.suffix_append ['?', '<'] inner)
  case h_7 inner _ _ _ _ _ _ hinner =>
    rw [hinner]
    obtain ⟨⟨flags, isDirective, after⟩, hchange, h⟩ := Option.bind_eq_some_iff.mp h
    have hsuffix := ((change_suffix hchange).trans (List.tail_suffix inner)).trans
      (List.suffix_cons '?' inner)
    dsimp only at h
    split at h
    · obtain ⟨-, rfl⟩ := Prod.mk.inj (Option.some.inj h)
      exact hsuffix
    · obtain ⟨-, rfl⟩ := Prod.mk.inj (Option.some.inj h)
      exact hsuffix
  case h_8 =>
    obtain ⟨-, rfl⟩ := Prod.mk.inj (Option.some.inj h)
    exact List.suffix_refl _

theorem opening_front (h : s.opening (cs ++ ending) = some (t, rest ++ ending)) :
    s.opening cs = some (t, rest) := by
  have hskip := skip_append_of_suffix (opening_suffix h)
  unfold opening at h ⊢
  rw [hskip] at h
  generalize s.flags.skip cs = ds at h ⊢
  split at h
  case h_1 | h_2 | h_3 | h_4 => cases h
  case h_5 inner hinner =>
    obtain ⟨ds, rfl, hletter⟩ := eq_cons_of_append_ending (by decide) hinner
    obtain ⟨ds, rfl, hangle⟩ := eq_cons_of_append_ending (by decide) hletter.symm
    obtain ⟨ds, rfl, rfl⟩ := eq_cons_of_append_ending (by decide) hangle.symm
    exact openNamed_front h
  case h_6 inner hlook hbehind hinner =>
    obtain ⟨ds, rfl, hangle⟩ := eq_cons_of_append_ending (by decide) hinner
    obtain ⟨ds, rfl, rfl⟩ := eq_cons_of_append_ending (by decide) hangle.symm
    have hlook : ∀ t, ds = '=' :: t → False := not_append_of_not_append ['='] hlook
    have hbehind : ∀ t, ds = '!' :: t → False := not_append_of_not_append ['!'] hbehind
    simp only
    exact openNamed_front h
  case h_7 inner h1 h2 h3 h4 h5 h6 hinner =>
    obtain ⟨ds, rfl, rfl⟩ := eq_cons_of_append_ending (by decide) hinner
    have h1 : ∀ t, ds = '=' :: t → False := not_append_of_not_append ['='] h1
    have h2 : ∀ t, ds = '!' :: t → False := not_append_of_not_append ['!'] h2
    have h3 : ∀ t, ds = '<' :: '=' :: t → False := not_append_of_not_append ['<', '='] h3
    have h4 : ∀ t, ds = '<' :: '!' :: t → False := not_append_of_not_append ['<', '!'] h4
    have h5 : ∀ t, ds = 'P' :: '<' :: t → False := not_append_of_not_append ['P', '<'] h5
    have h6 : ∀ t, ds = '<' :: t → False := not_append_of_not_append ['<'] h6
    obtain ⟨⟨flags, isDirective, after⟩, hchange, h⟩ := Option.bind_eq_some_iff.mp h
    dsimp only at h
    split at h
    case isTrue hdirective =>
      obtain ⟨rfl, rfl⟩ := Prod.mk.inj (Option.some.inj h)
      simp only [change_front hchange, Option.bind_eq_bind, Option.bind_some, if_pos hdirective]
    case isFalse hdirective =>
      obtain ⟨rfl, rfl⟩ := Prod.mk.inj (Option.some.inj h)
      simp only [change_front hchange, Option.bind_eq_bind, Option.bind_some, if_neg hdirective]
  case h_8 h7 =>
    obtain ⟨rfl, hrest⟩ := Prod.mk.inj (Option.some.inj h)
    obtain rfl : ds = rest := List.append_cancel_right hrest
    have h7 : ∀ t, ds = '?' :: t → False := not_append_of_not_append ['?'] h7
    split
    case h_8 => rfl
    all_goals exact (h7 _ rfl).elim

theorem step_suffix (h : s.step c cs = some (t, rest)) : rest <:+ cs := by
  unfold step at h
  split at h
  case h_1 => exact (opening_suffix h).trans (skip_suffix _ cs)
  case h_2 =>
    obtain ⟨u, -, h⟩ := Option.map_eq_some_iff.mp h
    obtain ⟨-, rfl⟩ := Prod.mk.inj h
    exact List.suffix_refl _
  case h_4 =>
    obtain ⟨⟨part, after⟩, hpart, h⟩ := Option.bind_eq_some_iff.mp h
    obtain ⟨-, rfl⟩ := Prod.mk.inj (Option.some.inj h)
    exact bracket_suffix hpart
  case h_5 | h_6 | h_7 =>
    obtain ⟨u, -, h⟩ := Option.map_eq_some_iff.mp h
    obtain ⟨-, rfl⟩ := Prod.mk.inj h
    exact dropLazy_suffix cs
  case h_8 =>
    obtain ⟨⟨least, most, after⟩, hrange, h⟩ := Option.bind_eq_some_iff.mp h
    obtain ⟨u, -, h⟩ := Option.map_eq_some_iff.mp h
    obtain ⟨-, rfl⟩ := Prod.mk.inj h
    exact repeatRange_suffix hrange
  case h_9 =>
    obtain ⟨⟨atom, after⟩, hatom, h⟩ := Option.bind_eq_some_iff.mp h
    obtain ⟨u, -, h⟩ := Option.map_eq_some_iff.mp h
    obtain ⟨-, rfl⟩ := Prod.mk.inj h
    exact (escape_suffix hatom).trans (List.tail_suffix cs)
  case h_10 =>
    obtain ⟨set, -, h⟩ := Option.bind_eq_some_iff.mp h
    obtain ⟨-, rfl⟩ := Prod.mk.inj (Option.some.inj h)
    exact List.suffix_refl _
  case h_3 | h_11 | h_12 =>
    obtain ⟨-, rfl⟩ := Prod.mk.inj (Option.some.inj h)
    exact List.suffix_refl _
  case h_13 =>
    obtain ⟨u, -, h⟩ := Option.map_eq_some_iff.mp h
    obtain ⟨-, rfl⟩ := Prod.mk.inj h
    exact List.suffix_refl _

theorem step_front (h : s.step c (cs ++ ending) = some (t, rest ++ ending)) :
    s.step c cs = some (t, rest) ∨ ∃ inner, rest = '{' :: inner ∧ t.flags.skip inner = [] := by
  unfold step at h
  split at h
  case h_9 =>
    obtain ⟨⟨atom, after⟩, hatom, h⟩ := Option.bind_eq_some_iff.mp h
    obtain ⟨u, hu, h⟩ := Option.map_eq_some_iff.mp h
    obtain ⟨rfl, rfl⟩ := Prod.mk.inj h
    rcases escape_front hatom with hatom | ⟨⟨condition, rfl⟩, inner, rfl, hinner⟩
    · left
      simp only [step, hatom, hu, Option.bind_eq_bind, Option.bind_some, Option.map_some]
    · right
      obtain rfl := Option.some.inj hu
      exact ⟨inner, rfl, hinner⟩
  all_goals left
  case h_1 => exact opening_front h
  case h_2 =>
    obtain ⟨u, hu, h⟩ := Option.map_eq_some_iff.mp h
    obtain ⟨rfl, hrest⟩ := Prod.mk.inj h
    simp only [step, hu, List.append_cancel_right hrest, Option.map_some]
  case h_4 =>
    obtain ⟨⟨part, after⟩, hpart, h⟩ := Option.bind_eq_some_iff.mp h
    obtain ⟨rfl, rfl⟩ := Prod.mk.inj (Option.some.inj h)
    simp only [step, bracket_front hpart, Option.bind_eq_bind, Option.bind_some]
  case h_5 | h_6 | h_7 =>
    obtain ⟨u, hu, h⟩ := Option.map_eq_some_iff.mp h
    obtain ⟨rfl, hrest⟩ := Prod.mk.inj h
    simp only [step, hu, dropLazy_front hrest, Option.map_some]
  case h_8 =>
    obtain ⟨⟨least, most, after⟩, hrange, h⟩ := Option.bind_eq_some_iff.mp h
    obtain ⟨u, hu, h⟩ := Option.map_eq_some_iff.mp h
    obtain ⟨rfl, rfl⟩ := Prod.mk.inj h
    simp only [step, repeatRange_front hrange, hu, Option.bind_eq_bind, Option.bind_some,
      Option.map_some]
  case h_10 =>
    obtain ⟨set, hset, h⟩ := Option.bind_eq_some_iff.mp h
    obtain ⟨rfl, hrest⟩ := Prod.mk.inj (Option.some.inj h)
    simp only [step, hset, List.append_cancel_right hrest, Option.bind_eq_bind, Option.bind_some]
  case h_3 | h_11 | h_12 =>
    obtain ⟨rfl, hrest⟩ := Prod.mk.inj (Option.some.inj h)
    simp only [step, List.append_cancel_right hrest]
  case h_13 =>
    obtain ⟨u, hu, h⟩ := Option.map_eq_some_iff.mp h
    obtain ⟨rfl, hrest⟩ := Prod.mk.inj h
    simp only [step, hu, List.append_cancel_right hrest, Option.map_some]

end State

end LineShell.Pattern
