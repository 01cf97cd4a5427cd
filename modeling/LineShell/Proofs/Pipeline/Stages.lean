import LineShell.Pipeline
import Mathlib.Data.List.TakeDrop

/-!
# The stages of a sequence of words

`Pipeline.stages` reads words one at a time. Seen as a whole, it cuts them at the first separator:
without one, all words belong to one stage (`stages_of_not_mem`); with one, the stage ends there and
the word after it starts the next stage, whatever that word is (`stages_append_separator`).
-/

namespace LineShell.Pipeline

variable {first : String} {args pre rest : List String}

@[simp] theorem stages_nil : stages first args [] = .ok [stage first args] := by
  rw [stages]

theorem stages_cons_of_ne {word : String} (h : word ≠ separator) :
    stages first args (word :: rest) = stages first (args ++ [word]) rest := by
  rw [stages.eq_def]
  exact if_neg h

theorem stages_separator_nil :
    stages first args [separator] = .error .expectedCommand := by
  rw [stages, if_pos rfl]

theorem stages_separator_cons (next : String) :
    stages first args (separator :: next :: rest) =
      (stages next [] rest).map (stage first args :: ·) := by
  rw [stages, if_pos rfl]

theorem stages_append (h : separator ∉ pre) :
    stages first args (pre ++ rest) = stages first (args ++ pre) rest := by
  induction pre generalizing args with
  | nil => rw [List.nil_append, List.append_nil]
  | cons word pre ih =>
    have hword : word ≠ separator := fun hw => h (by rw [hw]; exact List.mem_cons_self)
    rw [List.cons_append, stages_cons_of_ne hword,
      ih fun hpre => h (List.mem_cons_of_mem word hpre), List.append_assoc,
      List.singleton_append]

theorem stages_of_not_mem (h : separator ∉ rest) :
    stages first args rest = .ok [stage first (args ++ rest)] := by
  rw [← List.append_nil rest, stages_append h, stages_nil, List.append_nil]

/-- With a separator there is a stage before it, and there has to be one after it. -/
theorem stages_append_separator (h : separator ∉ pre) (rest : List String) :
    stages first args (pre ++ separator :: rest) =
      match rest with
      | [] => .error .expectedCommand
      | next :: rest => (stages next [] rest).map (stage first (args ++ pre) :: ·) := by
  rw [stages_append h]
  cases rest with
  | nil => exact stages_separator_nil
  | cons next rest => exact stages_separator_cons next

theorem stages_ne_nil {stages' : Pipeline} (h : stages first args rest = .ok stages') :
    stages' ≠ [] := by
  fun_induction stages first args rest generalizing stages' with
  | case1 first args =>
    cases h
    exact List.cons_ne_nil _ _
  | case2 => cases h
  | case3 first args next rest ih =>
    cases hnext : stages next [] rest with
    | error e => rw [hnext] at h; cases h
    | ok later =>
      rw [hnext] at h
      cases h
      exact List.cons_ne_nil _ _
  | case4 first args word rest hword ih => exact ih h

/-! ## Assignments -/

theorem eq_append_of_splitAssignment {word name value : String}
    (h : splitAssignment word = some (name, value)) : word = name ++ "=" ++ value := by
  unfold splitAssignment at h
  rw [List.span_eq_takeWhile_dropWhile] at h
  have hsplit := List.takeWhile_append_dropWhile (p := (· ≠ '=')) (l := word.toList)
  split at h
  · rename_i c cs d ds heq
    rw [Prod.mk.injEq] at heq
    obtain ⟨htake, hdrop⟩ := heq
    -- what stops the name is an equals sign
    have hd : d = '=' := by
      have hhead := List.head_dropWhile_not (· ≠ '=') (l := word.toList) (by rw [hdrop]; simp)
      simp only [hdrop, List.head_cons] at hhead
      simpa using hhead
    simp only [Option.some.injEq, Prod.mk.injEq] at h
    obtain ⟨rfl, rfl⟩ := h
    apply String.toList_inj.mp
    rw [← hsplit, htake, hdrop, hd]
    simp
  · cases h

theorem args_stage (first : String) (args : List String) :
    (∃ name value, first = name ++ "=" ++ value ∧
      stage first args = ⟨.assign, name :: value :: args⟩) ∨
    stage first args = .named first args := by
  unfold stage
  cases h : splitAssignment first with
  | none => exact .inr rfl
  | some pair => exact .inl ⟨pair.1, pair.2, eq_append_of_splitAssignment h, rfl⟩

end LineShell.Pipeline
