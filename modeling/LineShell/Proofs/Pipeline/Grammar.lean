import LineShell.Proofs.Pipeline.Stages
import Mathlib.Data.List.Forall2
import Mathlib.Data.List.TakeWhile

/-!
# The grammar of pipelines

Seen from outside, the words of a pipeline are *blocks* with one separator between each two. A block
is a first word, which may be any word, and further words, which may not be the separator. Words are
read as a pipeline exactly when they are such a sentence, and each block gives one stage
(`ofWords_eq_ok_iff`); they are refused exactly when each of their blocks has a separator after it
(`ofWords_eq_error_iff`). There is no third kind of words (`exists_sentence_or_closed`) and no
second way to cut a sentence into blocks (`sentence_injective`).

1. A block takes up its words and the separator after it (`ofWords_words_append`). What follows is
   read as if it stood alone, so blocks can be put together (`ofWords_sentence`, `ofWords_closed`).
2. A separator in first position is a first word, so cutting words at separators is not enough; the
   cuts are found along the reading itself.
-/

namespace LineShell.Pipeline

/-! ## Assignments -/

/-- The word is `name=value`: `name` stands before its first equals sign and is not empty, `value`
stands after it. -/
structure IsAssignment (word name value : String) : Prop where
  eq_append : word = name ++ "=" ++ value
  name_ne_empty : name ≠ ""
  equals_not_mem : '=' ∉ name.toList

theorem span_equals {name : List Char} (h : '=' ∉ name) (value : List Char) :
    (name ++ '=' :: value).span (· ≠ '=') = (name, '=' :: value) := by
  have hname : ∀ c ∈ name, decide (c ≠ '=') = true := by
    intro c hc
    rw [decide_eq_true_iff]
    rintro rfl
    exact h hc
  rw [List.span_eq_takeWhile_dropWhile, List.takeWhile_append_of_pos hname,
    List.dropWhile_append_of_pos hname]
  simp

theorem splitAssignment_eq_some_iff {word name value : String} :
    splitAssignment word = some (name, value) ↔ IsAssignment word name value := by
  constructor
  · intro h
    have heq := eq_append_of_splitAssignment h
    unfold splitAssignment at h
    rw [List.span_eq_takeWhile_dropWhile] at h
    split at h
    · rename_i c cs d ds hspan
      rw [Option.some.injEq, Prod.mk.injEq] at h
      obtain ⟨rfl, rfl⟩ := h
      have htake : word.toList.takeWhile (· ≠ '=') = c :: cs := congrArg Prod.fst hspan
      refine ⟨heq, ?_, ?_⟩
      · rw [ne_eq, ← String.toList_eq_nil_iff, String.toList_ofList]
        exact List.cons_ne_nil c cs
      · rw [String.toList_ofList, ← htake]
        intro hmem
        exact absurd (List.mem_takeWhile_imp hmem) (by decide)
    · cases h
  · rintro ⟨rfl, hne, hfree⟩
    have htext : (name ++ "=" ++ value).toList = name.toList ++ '=' :: value.toList := by
      rw [String.toList_append, String.toList_append, List.append_assoc]
      rfl
    obtain ⟨c, cs, hname⟩ := List.exists_cons_of_ne_nil (mt String.toList_eq_nil_iff.mp hne)
    unfold splitAssignment
    rw [htext, span_equals hfree, hname]
    simp only
    rw [← hname, String.ofList_toList, String.ofList_toList]

theorem splitAssignment_eq_none_iff {word : String} :
    splitAssignment word = none ↔ ∀ name value, ¬ IsAssignment word name value := by
  rw [Option.eq_none_iff_forall_ne_some]
  constructor
  · intro h name value hassign
    exact h (name, value) (splitAssignment_eq_some_iff.mpr hassign)
  · rintro h ⟨name, value⟩ hsplit
    exact h name value (splitAssignment_eq_some_iff.mp hsplit)

/-! ## Blocks -/

/-- The words of one stage. The first may be any word, even the separator. -/
structure Block where
  first : String
  args : List String
  /-- A separator ends the block. -/
  separator_not_mem : separator ∉ args

namespace Block

def words (b : Block) : List String := b.first :: b.args

/-- The command of a block. -/
def command (b : Block) : Command := stage b.first b.args

/-- The command that the words of a block ask for: an assignment, if the first of them has that
form, and else the command that the first of them names. -/
inductive Denotes (b : Block) : Command → Prop where
  | assignment {name value : String} (h : IsAssignment b.first name value) :
      Denotes b ⟨.assign, [name, value] ++ b.args⟩
  | named (h : ∀ name value, ¬ IsAssignment b.first name value) :
      Denotes b ⟨.ofName b.first, b.args⟩

theorem denotes_iff {b : Block} {c : Command} : b.Denotes c ↔ c = b.command := by
  constructor
  · rintro (h | h)
    · rw [command, stage, splitAssignment_eq_some_iff.mpr h]
      rfl
    · rw [command, stage, splitAssignment_eq_none_iff.mpr h]
      rfl
  · rintro rfl
    unfold command stage
    split
    · rename_i name value hsplit
      exact .assignment (splitAssignment_eq_some_iff.mp hsplit)
    · rename_i hsplit
      exact .named (splitAssignment_eq_none_iff.mp hsplit)

theorem forall₂_denotes_iff {blocks : List Block} {stages : Pipeline} :
    List.Forall₂ Denotes blocks stages ↔ stages = blocks.map command := by
  have hdenotes : Denotes = fun b c => b.command = c := by
    funext b c
    rw [denotes_iff, eq_comm (a := c)]
  rw [hdenotes, ← List.forall₂_map_left_iff, List.forall₂_eq_eq_eq, eq_comm]

end Block

/-- Blocks with one separator between each two. -/
def sentence (blocks : List Block) : List String := [separator].intercalate (blocks.map Block.words)

/-- Blocks with a separator after each. -/
def closed (blocks : List Block) : List String := blocks.flatMap fun b => b.words ++ [separator]

@[simp] theorem sentence_singleton (b : Block) : sentence [b] = b.words := by
  simp [sentence]

theorem sentence_cons_cons (b b' : Block) (blocks : List Block) :
    sentence (b :: b' :: blocks) = b.words ++ separator :: sentence (b' :: blocks) := by
  rw [sentence, List.map_cons, List.map_cons, List.intercalate_cons_cons, List.append_assoc]
  rfl

theorem sentence_cons_of_ne_nil (b : Block) {blocks : List Block} (h : blocks ≠ []) :
    sentence (b :: blocks) = b.words ++ separator :: sentence blocks := by
  obtain ⟨b', blocks, rfl⟩ := List.exists_cons_of_ne_nil h
  exact sentence_cons_cons b b' blocks

theorem closed_cons (b : Block) (blocks : List Block) :
    closed (b :: blocks) = b.words ++ separator :: closed blocks := by
  rw [closed, List.flatMap_cons, List.append_assoc, closed]
  rfl

theorem sentence_ne_nil {blocks : List Block} (h : blocks ≠ []) : sentence blocks ≠ [] := by
  obtain ⟨b, blocks, rfl⟩ := List.exists_cons_of_ne_nil h
  cases blocks with
  | nil => rw [sentence_singleton]; exact List.cons_ne_nil _ _
  | cons b' blocks => rw [sentence_cons_cons]; exact List.cons_ne_nil _ _

/-! ## Reading blocks -/

theorem ofWords_words (b : Block) : ofWords b.words = .ok [b.command] :=
  stages_of_not_mem b.separator_not_mem

theorem ofWords_words_separator (b : Block) :
    ofWords (b.words ++ [separator]) = .error .expectedCommand :=
  stages_append_separator b.separator_not_mem []

theorem ofWords_words_append (b : Block) {rest : List String} (h : rest ≠ []) :
    ofWords (b.words ++ separator :: rest) = (ofWords rest).map (b.command :: ·) := by
  obtain ⟨next, rest, rfl⟩ := List.exists_cons_of_ne_nil h
  exact stages_append_separator b.separator_not_mem (next :: rest)

/-- **Sentences are read**, and each block gives its stage. -/
theorem ofWords_sentence (blocks : List Block) :
    ofWords (sentence blocks) = .ok (blocks.map Block.command) := by
  induction blocks with
  | nil => rfl
  | cons b blocks ih =>
    by_cases hnil : blocks = []
    · subst hnil
      rw [sentence_singleton, ofWords_words]
      rfl
    · rw [sentence_cons_of_ne_nil b hnil, ofWords_words_append b (sentence_ne_nil hnil), ih]
      rfl

theorem ofWords_closed {blocks : List Block} (h : blocks ≠ []) :
    ofWords (closed blocks) = .error .expectedCommand := by
  induction blocks with
  | nil => exact absurd rfl h
  | cons b blocks ih =>
    rw [closed_cons]
    by_cases hnil : blocks = []
    · subst hnil
      exact ofWords_words_separator b
    · have hclosed : closed blocks ≠ [] := by
        obtain ⟨b', blocks, rfl⟩ := List.exists_cons_of_ne_nil hnil
        rw [closed_cons]
        exact List.cons_ne_nil _ _
      rw [ofWords_words_append b hclosed, ih hnil]
      rfl

/-! ## All words have one of the two forms -/

/-- Along the reading of a stage: its words and those that follow it are a sentence or closed. -/
theorem exists_blocks_of_stages (first : String) (args rest : List String)
    (hargs : separator ∉ args) :
    (∃ blocks, blocks ≠ [] ∧ first :: (args ++ rest) = sentence blocks) ∨
      ∃ blocks, blocks ≠ [] ∧ first :: (args ++ rest) = closed blocks := by
  fun_induction stages first args rest with
  | case1 first args =>
    refine .inl ⟨[⟨first, args, hargs⟩], List.cons_ne_nil _ _, ?_⟩
    rw [sentence_singleton, List.append_nil]
    rfl
  | case2 first args =>
    refine .inr ⟨[⟨first, args, hargs⟩], List.cons_ne_nil _ _, ?_⟩
    rw [closed_cons]
    rfl
  | case3 first args next rest ih =>
    -- the stage is one more block in front of those that follow it
    rcases ih List.not_mem_nil with ⟨blocks, hne, hrest⟩ | ⟨blocks, hne, hrest⟩
    · refine .inl ⟨⟨first, args, hargs⟩ :: blocks, List.cons_ne_nil _ _, ?_⟩
      rw [sentence_cons_of_ne_nil _ hne, ← hrest]
      rfl
    · refine .inr ⟨⟨first, args, hargs⟩ :: blocks, List.cons_ne_nil _ _, ?_⟩
      rw [closed_cons, ← hrest]
      rfl
  | case4 first args word rest hword ih =>
    have hargs' : separator ∉ args ++ [word] := by
      rw [List.mem_append, List.mem_singleton]
      rintro (h | h)
      · exact hargs h
      · exact hword h.symm
    have ih := ih hargs'
    rwa [List.append_assoc] at ih

theorem exists_sentence_or_closed (words : List String) :
    (∃ blocks, words = sentence blocks) ∨ ∃ blocks, blocks ≠ [] ∧ words = closed blocks := by
  cases words with
  | nil => exact .inl ⟨[], rfl⟩
  | cons first rest =>
    rcases exists_blocks_of_stages first [] rest List.not_mem_nil with ⟨blocks, -, h⟩ | h
    · exact .inl ⟨blocks, h⟩
    · exact .inr h

theorem ofWords_eq_ok_iff {words : List String} {stages : Pipeline} :
    ofWords words = .ok stages ↔
      ∃ blocks, words = sentence blocks ∧ stages = blocks.map Block.command := by
  constructor
  · intro h
    rcases exists_sentence_or_closed words with ⟨blocks, rfl⟩ | ⟨blocks, hne, rfl⟩
    · rw [ofWords_sentence, Except.ok.injEq] at h
      exact ⟨blocks, rfl, h.symm⟩
    · rw [ofWords_closed hne] at h
      cases h
  · rintro ⟨blocks, rfl, rfl⟩
    exact ofWords_sentence blocks

theorem ofWords_eq_error_iff {words : List String} :
    ofWords words = .error .expectedCommand ↔
      ∃ blocks, blocks ≠ [] ∧ words = closed blocks := by
  constructor
  · intro h
    rcases exists_sentence_or_closed words with ⟨blocks, rfl⟩ | hclosed
    · rw [ofWords_sentence] at h
      cases h
    · exact hclosed
  · rintro ⟨blocks, hne, rfl⟩
    exact ofWords_closed hne

/-! ## The blocks of a sentence -/

/-- The first separator after the first word ends the first block. -/
theorem eq_of_append_separator {xs ys s t : List String} (hx : separator ∉ xs)
    (hy : separator ∉ ys) (h : xs ++ separator :: s = ys ++ separator :: t) :
    xs = ys ∧ s = t := by
  -- a longer one of the two would have to have the separator that ends the shorter
  rcases List.append_eq_append_iff.mp h with ⟨zs, rfl, hz⟩ | ⟨zs, rfl, hz⟩
  · cases zs with
    | nil => exact ⟨(List.append_nil xs).symm, (List.cons.inj hz).2⟩
    | cons z zs =>
      rw [(List.cons.inj hz).1] at hy
      exact absurd (List.mem_append_right xs List.mem_cons_self) hy
  · cases zs with
    | nil => exact ⟨List.append_nil ys, (List.cons.inj hz).2.symm⟩
    | cons z zs =>
      rw [(List.cons.inj hz).1] at hx
      exact absurd (List.mem_append_right ys List.mem_cons_self) hx

theorem Block.words_injective {b b' : Block} (h : b.words = b'.words) : b = b' := by
  obtain ⟨first, args, hargs⟩ := b
  obtain ⟨first', args', hargs'⟩ := b'
  obtain ⟨rfl, rfl⟩ := List.cons.inj h
  rfl

theorem Block.eq_of_words_append {b b' : Block} {s t : List String}
    (h : b.words ++ separator :: s = b'.words ++ separator :: t) : b = b' ∧ s = t := by
  obtain ⟨hfirst, hrest⟩ := List.cons.inj h
  obtain ⟨hargs, hst⟩ := eq_of_append_separator b.separator_not_mem b'.separator_not_mem hrest
  exact ⟨words_injective (congrArg₂ List.cons hfirst hargs), hst⟩

theorem Block.words_ne_append (b b' : Block) (s : List String) :
    b.words ≠ b'.words ++ separator :: s := by
  intro h
  have hmem : separator ∈ b.args := by
    rw [(List.cons.inj h).2]
    exact List.mem_append_right _ List.mem_cons_self
  exact b.separator_not_mem hmem

theorem sentence_injective : Function.Injective sentence := by
  intro blocks
  induction blocks with
  | nil =>
    intro blocks' h
    by_contra hne
    exact sentence_ne_nil (Ne.symm hne) h.symm
  | cons b blocks ih =>
    intro blocks' h
    cases blocks' with
    | nil => exact absurd h (sentence_ne_nil (List.cons_ne_nil b blocks))
    | cons b' blocks' =>
      by_cases hnil : blocks = [] <;> by_cases hnil' : blocks' = []
      · subst hnil hnil'
        rw [sentence_singleton, sentence_singleton] at h
        rw [Block.words_injective h]
      · subst hnil
        rw [sentence_singleton, sentence_cons_of_ne_nil b' hnil'] at h
        exact absurd h (b.words_ne_append b' _)
      · subst hnil'
        rw [sentence_singleton, sentence_cons_of_ne_nil b hnil] at h
        exact absurd h.symm (b'.words_ne_append b _)
      · rw [sentence_cons_of_ne_nil b hnil, sentence_cons_of_ne_nil b' hnil'] at h
        obtain ⟨rfl, hrest⟩ := Block.eq_of_words_append h
        rw [ih hrest]

/-! ## The grammar -/

/-- **Reading accepts exactly the grammar.** Words are read as `stages` if there are none of both,
or if the words are one or more blocks with separators between them and the stages are what the
blocks denote; there is one such cut. They are refused if they are one or more blocks with a
separator after each. -/
theorem ofWords_grammar (words : List String) :
    (∀ stages, ofWords words = .ok stages ↔
      (words = [] ∧ stages = []) ∨
        ∃ blocks, blocks ≠ [] ∧ words = sentence blocks ∧
          List.Forall₂ Block.Denotes blocks stages) ∧
    (∀ blocks blocks', words = sentence blocks → words = sentence blocks' → blocks = blocks') ∧
    (ofWords words = .error .expectedCommand ↔
      ∃ blocks, blocks ≠ [] ∧ words = closed blocks) := by
  refine ⟨fun stages => ?_, ?_, ofWords_eq_error_iff⟩
  · simp only [Block.forall₂_denotes_iff]
    rw [ofWords_eq_ok_iff]
    constructor
    · rintro ⟨blocks, hwords, hstages⟩
      by_cases hnil : blocks = []
      · subst hnil
        exact .inl ⟨hwords, hstages⟩
      · exact .inr ⟨blocks, hnil, hwords, hstages⟩
    · rintro (⟨rfl, rfl⟩ | ⟨blocks, -, hwords, hstages⟩)
      · exact ⟨[], rfl, rfl⟩
      · exact ⟨blocks, hwords, hstages⟩
  · rintro blocks blocks' rfl h
    exact sentence_injective h

/-- A separator as a first word, an assignment with two equals signs and an equals sign alone. -/
theorem ofWords_grammar_three :
    ofWords ["|", "a", "|", "x=1=2", "b", "|", "=", "y"] =
      .ok [⟨.external "|", ["a"]⟩, ⟨.assign, ["x", "1=2", "b"]⟩, ⟨.assign, ["y"]⟩] ∧
    (∀ blocks, ["|", "a", "|", "x=1=2", "b", "|", "=", "y"] = sentence blocks →
      blocks.map Block.words = [["|", "a"], ["x=1=2", "b"], ["=", "y"]]) ∧
    ofWords ["|", "|"] = .error .expectedCommand := by
  have hwords : ["|", "a", "|", "x=1=2", "b", "|", "=", "y"] =
      sentence [⟨"|", ["a"], by decide⟩, ⟨"x=1=2", ["b"], by decide⟩, ⟨"=", ["y"], by decide⟩] := by
    decide
  refine ⟨((ofWords_grammar _).1 _).mpr (.inr ⟨_, by simp, hwords, ?_⟩), ?_, ?_⟩
  · refine .cons (.named ?_) (.cons (.assignment ⟨rfl, by decide, by decide⟩)
      (.cons (.named ?_) .nil))
    · exact splitAssignment_eq_none_iff.mp (by decide)
    · exact splitAssignment_eq_none_iff.mp (by decide)
  · intro blocks hblocks
    rw [← (ofWords_grammar _).2.1 _ _ hwords hblocks]
    rfl
  · exact (ofWords_grammar _).2.2.mpr ⟨[⟨"|", [], by decide⟩], by simp, by decide⟩

end LineShell.Pipeline
