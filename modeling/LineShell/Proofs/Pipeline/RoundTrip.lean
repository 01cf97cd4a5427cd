import LineShell.Proofs.Pipeline.Grammar

/-!
# Writing a pipeline as words

A pipeline can be written as words again, and they are read as the same pipeline
(`ofWords_words_of_ok`). They need not be the words it came from: an assignment can be given as
`name=value` or by an equals sign that stands alone, with name and value after it, and both make the
same command.

1. `Block.normal` turns the second form into the first, where that one can be read back. It changes
   no other block (`normal_of_ne`) and no command (`command_normal`), and its words are those that
   the command is written as (`words_command`).
2. So the words of a pipeline are the sentence of the normal blocks (`words_map_command`).
-/

namespace LineShell

/-- The words that a command is written as: its name and its arguments, or `name=value` and further
arguments for an assignment to a name that the first equals sign ends. -/
def Command.words : Command → List String
  | ⟨.assign, name :: value :: rest⟩ =>
    if name ≠ "" ∧ '=' ∉ name.toList then (name ++ "=" ++ value) :: rest
    else Kind.assignName :: name :: value :: rest
  | c => c.name :: c.args

theorem Command.words_of_kind_ne {c : Command} (h : c.kind ≠ .assign) :
    c.words = c.name :: c.args := by
  unfold words
  split
  · exact absurd rfl h
  · rfl

theorem Kind.ofName_eq_assign_iff {name : String} : ofName name = .assign ↔ name = assignName := by
  constructor
  · intro h
    rw [← name_ofName name, h]
    rfl
  · rintro rfl
    rfl

namespace Pipeline

/-- The words that a pipeline is written as. -/
def words (stages : Pipeline) : List String :=
  [separator].intercalate (stages.map Command.words)

theorem IsAssignment.ne_assignName {word name value : String} (h : IsAssignment word name value) :
    word ≠ Kind.assignName := by
  intro hword
  have hlen := congrArg String.length (h.eq_append.symm.trans hword)
  have hone : "=".length = 1 := rfl
  rw [String.length_append, String.length_append, Kind.assignName, hone] at hlen
  exact h.name_ne_empty (String.length_eq_zero_iff.mp (by omega))

namespace Block

/-- The block in the form in which its command is written. -/
def normal : Block → Block
  | ⟨first, name :: value :: rest, h⟩ =>
    if first = Kind.assignName ∧ name ≠ "" ∧ '=' ∉ name.toList then
      ⟨name ++ "=" ++ value, rest,
        fun hrest => h (List.mem_cons_of_mem _ (List.mem_cons_of_mem _ hrest))⟩
    else ⟨first, name :: value :: rest, h⟩
  | b => b

theorem normal_of_ne {b : Block} (h : b.first ≠ Kind.assignName) : b.normal = b := by
  unfold normal
  split
  · exact if_neg fun hassign => h hassign.1
  · rfl

theorem command_of_isAssignment {b : Block} {name value : String}
    (h : IsAssignment b.first name value) : b.command = ⟨.assign, name :: value :: b.args⟩ :=
  (denotes_iff.mp (.assignment h)).symm

theorem command_of_not_isAssignment {b : Block}
    (h : ∀ name value, ¬ IsAssignment b.first name value) :
    b.command = ⟨.ofName b.first, b.args⟩ :=
  (denotes_iff.mp (.named h)).symm

theorem command_of_assignName {b : Block} (h : b.first = Kind.assignName) :
    b.command = ⟨.assign, b.args⟩ := by
  rw [command_of_not_isAssignment fun name value hassign => hassign.ne_assignName h,
    Kind.ofName_eq_assign_iff.mpr h]

theorem kind_command (b : Block) : b.command.kind = .ofName b.command.name := by
  by_cases h : ∃ name value, IsAssignment b.first name value
  · obtain ⟨name, value, h⟩ := h
    rw [command_of_isAssignment h]
    rfl
  · push Not at h
    rw [command_of_not_isAssignment h]
    exact congrArg Kind.ofName (Kind.name_ofName b.first).symm

theorem command_normal (b : Block) : b.normal.command = b.command := by
  by_cases hfirst : b.first = Kind.assignName
  · rw [command_of_assignName hfirst]
    unfold normal
    split
    · rename_i first name value rest hrest
      split
      · rename_i hassign
        exact command_of_isAssignment ⟨rfl, hassign.2.1, hassign.2.2⟩
      · exact command_of_assignName hfirst
    · exact command_of_assignName hfirst
  · rw [normal_of_ne hfirst]

theorem words_command (b : Block) : b.command.words = b.normal.words := by
  by_cases hfirst : b.first = Kind.assignName
  · rw [command_of_assignName hfirst]
    obtain ⟨first, args, hargs⟩ := b
    match args, hargs with
    | [], _ => exact congrArg (· :: []) hfirst.symm
    | [arg], _ => exact congrArg (· :: [arg]) hfirst.symm
    | name :: value :: rest, hargs =>
      by_cases hassign : name ≠ "" ∧ '=' ∉ name.toList
      · rw [Command.words, if_pos hassign, normal, if_pos ⟨hfirst, hassign⟩]
        rfl
      · rw [Command.words, if_neg hassign, normal, if_neg fun h => hassign h.2]
        exact congrArg (· :: name :: value :: rest) hfirst.symm
  · rw [normal_of_ne hfirst]
    by_cases h : ∃ name value, IsAssignment b.first name value
    · obtain ⟨name, value, h⟩ := h
      rw [command_of_isAssignment h, Command.words, if_pos ⟨h.name_ne_empty, h.equals_not_mem⟩,
        ← h.eq_append]
      rfl
    · push Not at h
      have hkind : Kind.ofName b.first ≠ .assign := mt Kind.ofName_eq_assign_iff.mp hfirst
      rw [command_of_not_isAssignment h, Command.words_of_kind_ne hkind, Command.name,
        Kind.name_ofName]
      rfl

end Block

/-! ## Pipelines -/

theorem words_map_command (blocks : List Block) :
    words (blocks.map Block.command) = sentence (blocks.map Block.normal) := by
  rw [words, sentence, List.map_map, List.map_map]
  congr 1
  exact List.map_congr_left fun b _ => b.words_command

theorem map_command_map_normal (blocks : List Block) :
    (blocks.map Block.normal).map Block.command = blocks.map Block.command := by
  rw [List.map_map]
  exact List.map_congr_left fun b _ => b.command_normal

theorem map_normal_of_forall_ne {blocks : List Block}
    (h : ∀ b ∈ blocks, b.first ≠ Kind.assignName) : blocks.map Block.normal = blocks := by
  calc blocks.map Block.normal = blocks.map id :=
        List.map_congr_left fun b hb => Block.normal_of_ne (h b hb)
    _ = blocks := List.map_id blocks

section Read

variable {source : List String} {stages : Pipeline}

theorem kind_eq_ofName_name (h : ofWords source = .ok stages) :
    ∀ c ∈ stages, c.kind = .ofName c.name := by
  obtain ⟨blocks, -, rfl⟩ := ofWords_eq_ok_iff.mp h
  intro c hc
  obtain ⟨b, -, rfl⟩ := List.mem_map.mp hc
  exact b.kind_command

theorem ofWords_words_of_ok (h : ofWords source = .ok stages) :
    ofWords stages.words = .ok stages := by
  obtain ⟨blocks, -, rfl⟩ := ofWords_eq_ok_iff.mp h
  rw [words_map_command, ofWords_sentence, map_command_map_normal]

end Read

theorem eq_iff_of_kind_eq {c d : Command} (hc : c.kind = .ofName c.name)
    (hd : d.kind = .ofName d.name) : c = d ↔ c.name = d.name ∧ c.args = d.args := by
  constructor
  · rintro rfl
    exact ⟨rfl, rfl⟩
  · rintro ⟨hname, hargs⟩
    obtain ⟨kind, args⟩ := c
    obtain ⟨kind', args'⟩ := d
    have hkind : kind = kind' := hc.trans ((congrArg Kind.ofName hname).trans hd.symm)
    rw [hkind, show args = args' from hargs]

/-- **Pipelines and words.** Let `source` be read as `stages`. The kind of each stage is what its
name stands for. The stages, written as words, are read as the same stages, and these words are
`source` if no block of it starts with a lone equals sign. Stages that were read, of this and of any
other source, are equal if they have the same name and the same arguments. -/
theorem pipeline_round_trip {source : List String} {stages : Pipeline}
    (h : ofWords source = .ok stages) :
    (∀ c ∈ stages, c.kind = .ofName c.name) ∧
    ofWords stages.words = .ok stages ∧
    (∃ blocks, source = sentence blocks ∧ List.Forall₂ Block.Denotes blocks stages ∧
      ((∀ b ∈ blocks, b.first ≠ Kind.assignName) → stages.words = source)) ∧
    ∀ source' stages', ofWords source' = .ok stages' →
      ∀ c ∈ stages, ∀ d ∈ stages', c = d ↔ c.name = d.name ∧ c.args = d.args := by
  refine ⟨kind_eq_ofName_name h, ofWords_words_of_ok h, ?_, ?_⟩
  · obtain ⟨blocks, rfl, rfl⟩ := ofWords_eq_ok_iff.mp h
    refine ⟨blocks, rfl, Block.forall₂_denotes_iff.mpr rfl, fun hfirst => ?_⟩
    rw [words_map_command, map_normal_of_forall_ne hfirst]
  · intro source' stages' h' c hc d hd
    exact eq_iff_of_kind_eq (kind_eq_ofName_name h c hc) (kind_eq_ofName_name h' d hd)

/-- Both forms of an assignment, a separator as a name and an equals sign with one argument. -/
theorem pipeline_round_trip_four :
    ofWords ["=", "x", "1", "a", "|", "|", "b", "|", "y=", "|", "=", "z"] =
      .ok [⟨.assign, ["x", "1", "a"]⟩, ⟨.external "|", ["b"]⟩, ⟨.assign, ["y", ""]⟩,
        ⟨.assign, ["z"]⟩] ∧
    ofWords ["x=1", "a", "|", "|", "b", "|", "y=", "|", "=", "z"] =
      .ok [⟨.assign, ["x", "1", "a"]⟩, ⟨.external "|", ["b"]⟩, ⟨.assign, ["y", ""]⟩,
        ⟨.assign, ["z"]⟩] := by
  have hread : ofWords ["=", "x", "1", "a", "|", "|", "b", "|", "y=", "|", "=", "z"] =
      .ok [⟨.assign, ["x", "1", "a"]⟩, ⟨.external "|", ["b"]⟩, ⟨.assign, ["y", ""]⟩,
        ⟨.assign, ["z"]⟩] := by decide
  exact ⟨hread, (pipeline_round_trip hread).2.1⟩

end Pipeline

end LineShell
