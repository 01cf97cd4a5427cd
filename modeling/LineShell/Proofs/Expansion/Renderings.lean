import LineShell.Proofs.Expansion.Quotation
import LineShell.Text.Split
import Mathlib.Data.List.Forall2

/-!
# Every way of quoting words

A word can be written in segments: characters that need no quotes, text in single quotes and text in
double quotes, in any order. `expand_renderings` says that a line of such words expands to the texts
of the words, however each of them is written and however many spaces stand around them; a word
without text leaves no trace.

1. A segment spells its text (`Segment.spells`), and spellings can be put one after the other, so a
   word does (`Rendering.spells`).
2. Between words nothing is being built, and there spaces do nothing (`scan_spaces`).
3. A line without quotes and dollar signs is a special case that can be told without segments: its
   words are what stands between the spaces (`expand_plain`).
-/

namespace LineShell

open Progress

/-! ## Segments -/

/-- A part of a word, written in one of the three ways. -/
inductive Segment where
  /-- Characters that stand for themselves without quotes. -/
  | bare (text : String) (ne_empty : text ≠ "")
      (plain : ∀ c ∈ text.toList, c ≠ ' ' ∧ c ≠ '\'' ∧ c ≠ '"' ∧ c ≠ '$')
  /-- Text in single quotes. -/
  | single (text : String) (plain : ∀ c ∈ text.toList, c ≠ '\'')
  /-- Text in double quotes. -/
  | double (text : String) (plain : ∀ c ∈ text.toList, c ≠ '"' ∧ c ≠ '$')

namespace Segment

/-- What the segment stands for. -/
def text : Segment → String
  | bare text _ _ => text
  | single text _ => text
  | double text _ => text

/-- How the segment is written. -/
def source : Segment → String
  | bare text _ _ => text
  | single text _ => "'" ++ text ++ "'"
  | double text _ => "\"" ++ text ++ "\""

end Segment

theorem Progress.action_bare {c : Char} (h : c ≠ ' ' ∧ c ≠ '\'' ∧ c ≠ '"' ∧ c ≠ '$') :
    action .bare c = .literal := by
  unfold action
  split <;> simp_all

theorem Progress.action_double {c : Char} (h : c ≠ '"' ∧ c ≠ '$') :
    action .double c = .literal := by
  unfold action
  split <;> simp_all

theorem spells_quoted {scope : Scope} {q : Quoting} {mark text : String} {c : Char}
    (hmark : mark.toList = [c]) (hopen : action .bare c = .openQuote q)
    (hclose : action q c = .openQuote .bare)
    (htext : ∀ d ∈ text.toList, action q d = .literal) :
    Spells scope (mark ++ text ++ mark) text := by
  intro k p rest hp
  obtain ⟨quoting, pending, words⟩ := p
  cases hp
  have hlist : (mark ++ text ++ mark).toList ++ rest = c :: (text.toList ++ c :: rest) := by
    simp [hmark]
  have hone : mark.length = 1 := by rw [← String.length_toList, hmark]; rfl
  have hlen : k + (mark ++ text ++ mark).length = k + 1 + text.toList.length + 1 := by
    rw [String.length_append, String.length_append, hone, String.length_toList]
    omega
  rw [hlist, scan_openQuote hopen, scan_literals scope htext, String.ofList_toList,
    scan_openQuote hclose, hlen]
  rfl

theorem Segment.spells (scope : Scope) (g : Segment) : Spells scope g.source g.text := by
  cases g with
  | bare text ne_empty plain => exact spells_self fun c hc => action_bare (plain c hc)
  | single text plain =>
    exact spells_quoted (c := '\'') (by decide) rfl rfl fun c hc => action_single (plain c hc)
  | double text plain =>
    exact spells_quoted (c := '"') (by decide) rfl rfl fun c hc => action_double (plain c hc)

/-! ## Words -/

/-- A way to write a word: one or more segments. -/
structure Rendering where
  segments : List Segment
  segments_ne_nil : segments ≠ []

namespace Rendering

/-- The word. -/
def text (r : Rendering) : String := String.join (r.segments.map Segment.text)

/-- How the word is written. -/
def source (r : Rendering) : String := String.join (r.segments.map Segment.source)

/-- **Every rendering spells its word.** -/
theorem spells (scope : Scope) (r : Rendering) : Spells scope r.source r.text := by
  unfold source text
  induction r.segments with
  | nil => exact spells_self fun c hc => by cases hc
  | cons g segments ih =>
    rw [List.map_cons, List.map_cons, String.join_cons, String.join_cons]
    exact (g.spells scope).append ih

end Rendering

/-! ## Lines -/

def spaces (n : Nat) : String := String.ofList (List.replicate n ' ')

/-- Words with spaces after them. After the last word there are as many as its number says, and
between two words there is one more. -/
def spaced : List (Rendering × Nat) → String
  | [] => ""
  | [(r, n)] => r.source ++ spaces n
  | (r, n) :: rest => r.source ++ spaces (n + 1) ++ spaced rest

/-- A line of words with spaces before, between and after them. -/
def renderedLine (before : Nat) (words : List (Rendering × Nat)) : String :=
  spaces before ++ spaced words

/-- Where no word is being built, spaces do nothing. -/
theorem scan_spaces (scope : Scope) (n k : Nat) (words : List String) (rest : List Char) :
    scan scope k { words } ((spaces n).toList ++ rest) = scan scope (k + n) { words } rest := by
  rw [spaces, String.toList_ofList]
  induction n generalizing k with
  | zero => rfl
  | succ n ih =>
    have hend : endWord { words } = { words } := rfl
    rw [List.replicate_succ, List.cons_append, scan_endWord rfl, hend, ih, Nat.add_assoc,
      Nat.add_comm 1]

theorem Spells.scan_spaces {scope : Scope} {source word : String} (h : Spells scope source word)
    (k n : Nat) (words : List String) (rest : List Char) :
    scan scope k { words } ((source ++ spaces (n + 1)).toList ++ rest) =
      scan scope (k + source.length + (n + 1))
        { words := words ++ [word].filter (!·.isEmpty) } rest := by
  have htext : (source ++ spaces (n + 1)).toList ++ rest =
      source.toList ++ ' ' :: ((spaces n).toList ++ rest) := by
    simp [spaces, List.replicate_succ]
  rw [htext, h.scan_space k rfl rfl, LineShell.scan_spaces, Nat.add_assoc (k + source.length),
    Nat.add_comm 1]

/-- **A line of words.** By induction on the words; before each of them nothing is being built. -/
theorem scan_spaced (scope : Scope) (k : Nat) (words : List String)
    (rs : List (Rendering × Nat)) :
    scan scope k { words } (spaced rs).toList =
      .ok { words := words ++ (rs.map fun r => r.1.text).filter (!·.isEmpty) } := by
  induction rs generalizing k words with
  | nil =>
    rw [List.map_nil, List.filter_nil, List.append_nil]
    exact scan_nil
  | cons r rs ih =>
    obtain ⟨r, n⟩ := r
    have hr := r.spells scope
    cases rs with
    | nil =>
      cases n with
      | zero =>
        have htext : spaced [(r, 0)] = r.source := String.append_empty
        rw [htext]
        exact hr.scan_end k rfl rfl
      | succ n =>
        have hscan := hr.scan_spaces k n words []
        rw [List.append_nil, scan_nil] at hscan
        exact hscan
    | cons r' rs =>
      rw [spaced, String.toList_append, hr.scan_spaces, ih, List.append_assoc,
        ← List.filter_append]
      · rfl
      · rintro ⟨⟩

theorem expand_renderedLine (scope : Scope) (before : Nat) (rs : List (Rendering × Nat)) :
    expand scope (renderedLine before rs) =
      .ok { words := (rs.map fun r => r.1.text).filter (!·.isEmpty) } := by
  rw [expand, feed, renderedLine, String.toList_append, scan_spaces, scan_spaced]
  rfl

/-! ## Lines without quotes and dollar signs -/

/-- The words of a line: what stands between its spaces. -/
def spaceWords (line : String) : List String :=
  (Text.splitAt ' ' line).filter (!·.isEmpty)

theorem unwords_splitAt (line : String) : Text.unwords (Text.splitAt ' ' line) = line :=
  Text.intercalate_splitAt rfl line

theorem spells_of_mem_splitAt (scope : Scope) {line piece : String}
    (hline : ∀ c ∈ line.toList, c ≠ '\'' ∧ c ≠ '"' ∧ c ≠ '$')
    (hpiece : piece ∈ Text.splitAt ' ' line) : Spells scope piece piece := by
  apply spells_self
  intro c hc
  obtain ⟨hmem, hspace⟩ := Text.mem_of_mem_splitAt hpiece hc
  exact action_bare ⟨hspace, hline c hmem⟩

theorem expand_unwords {scope : Scope} {words : List String}
    (h : ∀ w ∈ words, Spells scope w w) :
    expand scope (Text.unwords words) = .ok { words := words.filter (!·.isEmpty) } :=
  scan_unwords (List.forall₂_same.mpr h) 0 rfl rfl

/-- **Plain lines split at their spaces**, and the words, put together again, give themselves. -/
theorem expand_plain (scope : Scope) {line : String}
    (hline : ∀ c ∈ line.toList, c ≠ '\'' ∧ c ≠ '"' ∧ c ≠ '$') :
    expand scope line = .ok { words := spaceWords line } ∧
      expand scope (Text.unwords (spaceWords line)) = .ok { words := spaceWords line } := by
  constructor
  · have hpieces := expand_unwords fun w hw => spells_of_mem_splitAt scope hline hw
    rwa [unwords_splitAt] at hpieces
  · have hwords : ∀ w ∈ spaceWords line, Spells scope w w := fun w hw =>
      spells_of_mem_splitAt scope hline (List.mem_filter.mp hw).1
    rw [expand_unwords hwords, spaceWords, List.filter_filter]
    simp only [Bool.and_self]

/-! ## The two together -/

/-- **Every way of quoting words.** Under any scope, a line of words expands to the texts of the
words that have text, in order, and is then complete, however the words are written and spaced. In
particular, a line without quotes and dollar signs expands to what stands between its spaces, and so
do these words with single spaces between them. -/
theorem expand_renderings (scope : Scope) :
    (∀ (before : Nat) (rs : List (Rendering × Nat)),
      expand scope (renderedLine before rs) =
        .ok { quoting := .bare, pending := "",
              words := (rs.map fun r => r.1.text).filter (!·.isEmpty) }) ∧
    ∀ line : String, (∀ c ∈ line.toList, c ≠ '\'' ∧ c ≠ '"' ∧ c ≠ '$') →
      expand scope line = .ok { quoting := .bare, pending := "", words := spaceWords line } ∧
        expand scope (Text.unwords (spaceWords line)) =
          .ok { quoting := .bare, pending := "", words := spaceWords line } :=
  ⟨expand_renderedLine scope, fun _ hline => expand_plain scope hline⟩

/-- Three ways of quoting in one word, a word without text and a quoted bar, with a variable that is
bound but only stands in single quotes; and a plain line. -/
theorem expand_renderings_four :
    expand (.ofList [("x", "1")]) "  l's $x'\"a'\"  '' \"|\" " =
        .ok { quoting := .bare, pending := "", words := ["ls $xa'", "|"] } ∧
      expand (.ofList [("x", "1")]) " a\tb  c|d " =
        .ok { quoting := .bare, pending := "", words := ["a\tb", "c|d"] } := by
  have hquoted := (expand_renderings (.ofList [("x", "1")])).1 2
    [(⟨[.bare "l" (by simp) (by simp), .single "s $x" (by simp), .double "a'" (by simp)],
        by simp⟩, 1),
      (⟨[.single "" (by simp)], by simp⟩, 0), (⟨[.double "|" (by simp)], by simp⟩, 1)]
  have hplain := (expand_renderings (.ofList [("x", "1")])).2 " a\tb  c|d " (by simp)
  exact ⟨hquoted, hplain.1⟩

end LineShell
