import LineShell.Text.Blank
import Mathlib.Data.List.Nodup
import Mathlib.Data.List.TakeWhile

/-!
# Words and trailing blanks

A word is a maximal run of characters that are not blank (`IsWordAt`). `wordCount` counts the words
of a text by the characters that they start with, of which each word has one:

1. The numbers of these characters are `wordStarts`, in the recursion of the count, and as many as
   it says (`length_wordStarts`).
2. A word starts at a character exactly if it is not blank and none, or a blank, stands before it
   (`mem_wordStarts_iff`), and ends in one place only (`IsWordAt.stop_unique`).

So the count is the number of words (`exists_words`). A blank between two texts keeps their words
apart (`wordCountFrom_append_blank`).

`trimEnd` leaves what is in front of the blanks at the end of a text (`Trimmed`), which is the whole
of a text that does not end in one (`Trimmed.eq`).
-/

namespace LineShell.Text

/-- The characters with the numbers from `start` up to `stop` are a maximal run without blanks. -/
structure IsWordAt (cs : List Char) (start stop : Nat) : Prop where
  lt : start < stop
  inside : ∀ i, start ≤ i → i < stop → ∃ c, cs[i]? = some c ∧ isBlank c = false
  before : ∀ i, start = i + 1 → ∀ c, cs[i]? = some c → isBlank c = true
  behind : ∀ c, cs[stop]? = some c → isBlank c = true

/-- The numbers of the characters that words start with, `inWord` telling whether the character
before them belongs to a word. -/
def wordStarts (inWord : Bool) : List Char → List Nat
  | [] => []
  | c :: cs =>
    (if isBlank c || inWord then [] else [0]) ++ (wordStarts (!isBlank c) cs).map (· + 1)

/-- Where a word ends that starts at the character number `start`. -/
def wordStop (cs : List Char) (start : Nat) : Nat :=
  start + ((cs.drop start).takeWhile (!isBlank ·)).length

section Starts

variable {inWord : Bool} {cs : List Char} {start stop stop' i : Nat}

/-! ## Where words start -/

theorem length_wordStarts : (wordStarts inWord cs).length = wordCountFrom inWord cs := by
  induction cs generalizing inWord with
  | nil => rfl
  | cons c cs ih =>
    rw [wordStarts, wordCountFrom, List.length_append, List.length_map, ih]
    cases isBlank c
    · cases inWord <;> simp
    · simp

theorem nodup_wordStarts (inWord : Bool) (cs : List Char) : (wordStarts inWord cs).Nodup := by
  induction cs generalizing inWord with
  | nil => exact List.nodup_nil
  | cons c cs ih =>
    have hlater : ((wordStarts (!isBlank c) cs).map (· + 1)).Nodup :=
      (ih _).map Nat.succ_injective
    rw [wordStarts]
    split_ifs
    · exact hlater
    · refine List.nodup_cons.mpr ⟨?_, hlater⟩
      simp

/-- **A word starts** where a character is not blank and none or a blank stands before it. -/
theorem mem_wordStarts_iff :
    i ∈ wordStarts inWord cs ↔
      (∃ c, cs[i]? = some c ∧ isBlank c = false) ∧ (i = 0 → inWord = false) ∧
        ∀ j, i = j + 1 → ∀ c, cs[j]? = some c → isBlank c = true := by
  induction cs generalizing inWord i with
  | nil => simp [wordStarts]
  | cons c cs ih =>
    cases i with
    | zero => cases h : isBlank c <;> cases inWord <;> simp [wordStarts, h]
    | succ i =>
      have hmem : i + 1 ∈ wordStarts inWord (c :: cs) ↔ i ∈ wordStarts (!isBlank c) cs := by
        rw [wordStarts, List.mem_append]
        split_ifs <;> simp
      rw [hmem, ih]
      -- what stands before the first character of `cs` is `c`
      cases i with
      | zero => simp
      | succ i => simp

/-! ## Where words end -/

theorem IsWordAt.stop_unique (h : IsWordAt cs start stop) (h' : IsWordAt cs start stop') :
    stop = stop' := by
  have hle {stop stop' : Nat} (h : IsWordAt cs start stop) (h' : IsWordAt cs start stop') :
      stop ≤ stop' := by
    by_contra hlt
    obtain ⟨c, hc, hword⟩ := h.inside stop' h'.lt.le (Nat.lt_of_not_le hlt)
    rw [h'.behind c hc] at hword
    cases hword
  exact le_antisymm (hle h h') (hle h' h)

theorem isWordAt_wordStop (h : start ∈ wordStarts false cs) :
    IsWordAt cs start (wordStop cs start) := by
  obtain ⟨⟨c, hc, hword⟩, -, hbefore⟩ := mem_wordStarts_iff.mp h
  -- from `start` on, the text is the word and what is behind it
  have hsplit (n : Nat) : cs[start + n]? = ((cs.drop start).takeWhile (!isBlank ·) ++
      (cs.drop start).dropWhile (!isBlank ·))[n]? := by
    rw [List.takeWhile_append_dropWhile, List.getElem?_drop]
  have hpos : 0 < ((cs.drop start).takeWhile (!isBlank ·)).length := by
    obtain ⟨hlt, rfl⟩ := List.getElem?_eq_some_iff.mp hc
    rw [List.drop_eq_getElem_cons hlt, List.takeWhile_cons, hword]
    exact Nat.succ_pos _
  refine ⟨Nat.lt_add_of_pos_right hpos, fun i hi hstop => ?_, hbefore, fun c hc => ?_⟩
  · obtain ⟨n, rfl⟩ := Nat.exists_eq_add_of_le hi
    have hn : n < ((cs.drop start).takeWhile (!isBlank ·)).length := Nat.lt_of_add_lt_add_left hstop
    rw [hsplit, List.getElem?_append_left hn, List.getElem?_eq_getElem hn]
    refine ⟨_, rfl, ?_⟩
    simpa using List.mem_takeWhile_imp (List.getElem_mem hn)
  · rw [wordStop, hsplit, List.getElem?_append_right le_rfl, Nat.sub_self,
      ← List.head?_eq_getElem?] at hc
    have hhead := List.head?_dropWhile_not (!isBlank ·) (cs.drop start)
    rw [hc] at hhead
    simpa using hhead

theorem isWordAt_iff :
    IsWordAt cs start stop ↔ start ∈ wordStarts false cs ∧ stop = wordStop cs start := by
  constructor
  · intro h
    have hstart : start ∈ wordStarts false cs :=
      mem_wordStarts_iff.mpr ⟨h.inside start le_rfl h.lt, fun _ => rfl, h.before⟩
    exact ⟨hstart, h.stop_unique (isWordAt_wordStop hstart)⟩
  · rintro ⟨hstart, rfl⟩
    exact isWordAt_wordStop hstart

theorem exists_words (s : String) :
    ∃ words : List (Nat × Nat), words.Nodup ∧
      (∀ start stop, (start, stop) ∈ words ↔ IsWordAt s.toList start stop) ∧
        words.length = wordCount s := by
  refine ⟨(wordStarts false s.toList).map fun start => (start, wordStop s.toList start), ?_, ?_, ?_⟩
  · exact (nodup_wordStarts false s.toList).map fun _ _ h => congrArg Prod.fst h
  · intro start stop
    rw [isWordAt_iff, List.mem_map]
    constructor
    · rintro ⟨start, hstart, ⟨⟩⟩
      exact ⟨hstart, rfl⟩
    · rintro ⟨hstart, rfl⟩
      exact ⟨start, hstart, rfl⟩
  · rw [List.length_map, length_wordStarts, wordCount]

end Starts

/-! ## Words of several texts -/

theorem wordCountFrom_append_blank {c : Char} (hc : isBlank c = true) (inWord : Bool)
    (xs ys : List Char) :
    wordCountFrom inWord (xs ++ c :: ys) = wordCountFrom inWord xs + wordCountFrom false ys := by
  induction xs generalizing inWord with
  | nil => simp [wordCountFrom, hc]
  | cons x xs ih =>
    rw [List.cons_append, wordCountFrom, wordCountFrom, ih, ih]
    split
    · rfl
    · rw [Nat.add_assoc]

/-! ## Trailing blanks -/

/-- The text goes on with blanks behind `trimmed`, which does not end in one. -/
structure Trimmed (text trimmed : String) : Prop where
  blanks : ∃ blanks : String, text = trimmed ++ blanks ∧ ∀ c ∈ blanks.toList, isBlank c = true
  last : ∀ c, trimmed.toList.getLast? = some c → isBlank c = false

theorem exists_blanks (cs : List Char) :
    ∃ blanks, cs = dropBlankEnd cs ++ blanks ∧ ∀ c ∈ blanks, isBlank c = true := by
  induction cs with
  | nil => exact ⟨[], rfl, by simp⟩
  | cons c cs ih =>
    obtain ⟨blanks, hcs, hblanks⟩ := ih
    cases hdrop : dropBlankEnd cs with
    | nil =>
      rw [hdrop, List.nil_append] at hcs
      rw [← hcs] at hblanks
      cases hc : isBlank c with
      | true => exact ⟨c :: cs, by simp [dropBlankEnd, hdrop, hc], by simpa [hc] using hblanks⟩
      | false => exact ⟨cs, by simp [dropBlankEnd, hdrop, hc], hblanks⟩
    | cons d ds =>
      refine ⟨blanks, ?_, hblanks⟩
      rw [hdrop] at hcs
      simp only [dropBlankEnd, hdrop, List.cons_append, List.cons.injEq, true_and]
      exact hcs

theorem dropBlankEnd_append {blanks : List Char} (h : ∀ c ∈ blanks, isBlank c = true)
    (cs : List Char) : dropBlankEnd (cs ++ blanks) = dropBlankEnd cs := by
  have hnil : dropBlankEnd blanks = [] := by
    induction blanks with
    | nil => rfl
    | cons c blanks ih =>
      rw [dropBlankEnd, ih fun d hd => h d (List.mem_cons_of_mem c hd)]
      exact if_pos (h c List.mem_cons_self)
  induction cs with
  | nil => exact hnil
  | cons c cs ih => rw [List.cons_append, dropBlankEnd, dropBlankEnd, ih]

theorem dropBlankEnd_eq_self {cs : List Char}
    (h : ∀ c, cs.getLast? = some c → isBlank c = false) : dropBlankEnd cs = cs := by
  obtain ⟨blanks, hcs, hblanks⟩ := exists_blanks cs
  rcases List.eq_nil_or_concat blanks with rfl | ⟨front, c, rfl⟩
  · rw [List.append_nil] at hcs
    exact hcs.symm
  · -- a last blank would end the list
    have hlast : cs.getLast? = some c := by rw [hcs]; simp
    have hblank := hblanks c (by simp)
    rw [h c hlast] at hblank
    cases hblank

theorem trimmed_trimEnd (text : String) : Trimmed text (trimEnd text) where
  blanks := by
    obtain ⟨blanks, htext, hblanks⟩ := exists_blanks text.toList
    refine ⟨String.ofList blanks, ?_, by simpa using hblanks⟩
    rw [trimEnd, ← String.ofList_append, ← htext, String.ofList_toList]
  last := by
    intro c hc
    rw [trimEnd, String.toList_ofList] at hc
    obtain ⟨hne, rfl⟩ := List.mem_getLast?_eq_getLast hc
    exact isBlank_getLast_dropBlankEnd text.toList hne

theorem Trimmed.eq {text trimmed : String} (h : Trimmed text trimmed) :
    trimmed = trimEnd text := by
  obtain ⟨blanks, rfl, hblanks⟩ := h.blanks
  rw [trimEnd, String.toList_append, dropBlankEnd_append hblanks, dropBlankEnd_eq_self h.last,
    String.ofList_toList]

theorem trimEnd_trimEnd (text : String) : trimEnd (trimEnd text) = trimEnd text := by
  have h : Trimmed (trimEnd text) (trimEnd text) :=
    ⟨⟨"", String.append_empty.symm, by simp⟩, (trimmed_trimEnd text).last⟩
  exact h.eq.symm

end LineShell.Text
