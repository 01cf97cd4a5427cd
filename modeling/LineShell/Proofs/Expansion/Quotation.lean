import LineShell.Proofs.Expansion.Scan
import LineShell.Text.Lines

/-!
# Ways of writing a word

A text *spells* a word if, wherever it stands outside quotes, scanning it adds that word to the one
being built and does nothing else. Spellings can be put one after the other (`Spells.append`), and a
line of spellings with single spaces between them expands to the words they spell
(`scan_unwords`), where empty words do not count.

Every word has a spelling under any scope: its quotation (`spells_quote`).
-/

namespace LineShell

open Progress

/-- Outside quotes, scanning `source` adds `word` to the word being built. -/
def Spells (scope : Scope) (source word : String) : Prop :=
  ∀ (k : Nat) (p : Progress) (rest : List Char), p.quoting = .bare →
    scan scope k p (source.toList ++ rest) =
      scan scope (k + source.length) (p.append word) rest

theorem Spells.append {scope : Scope} {a b v w : String} (ha : Spells scope a v)
    (hb : Spells scope b w) : Spells scope (a ++ b) (v ++ w) := by
  intro k p rest hp
  rw [String.toList_append, List.append_assoc, ha k p _ hp, hb _ (p.append v) rest hp,
    append_append, String.length_append, Nat.add_assoc]

theorem spells_self {scope : Scope} {s : String}
    (h : ∀ c ∈ s.toList, action .bare c = .literal) : Spells scope s s := by
  intro k p rest hp
  rw [← hp] at h
  rw [scan_literals scope h, String.ofList_toList, String.length_toList]

theorem spells_echo (scope : Scope) : Spells scope "echo" "echo" := by
  apply spells_self
  simp [action]

/-! ## Quotations -/

/-- How a character is written inside single quotes. A single quote closes them, stands between
double quotes and opens them again. -/
def escape (c : Char) : List Char :=
  if c = '\'' then ['\'', '"', '\'', '"', '\''] else [c]

/-- The word in single quotes. -/
def quote (w : String) : String := String.ofList ('\'' :: (w.toList.flatMap escape ++ ['\'']))

theorem toList_quote (w : String) :
    (quote w).toList = '\'' :: (w.toList.flatMap escape ++ ['\'']) := by
  rw [quote, String.toList_ofList]

theorem scan_escape (scope : Scope) (k : Nat) {p : Progress} (hp : p.quoting = .single)
    (c : Char) (rest : List Char) :
    scan scope k p (escape c ++ rest) =
      scan scope (k + (escape c).length) (p.append (String.singleton c)) rest := by
  obtain ⟨quoting, pending, words⟩ := p
  cases hp
  by_cases hc : c = '\''
  · subst hc
    simp only [escape, if_true, List.cons_append, List.nil_append]
    rw [scan_openQuote (q := .bare) rfl, scan_openQuote (q := .double) rfl, scan_literal rfl,
      scan_openQuote (q := .bare) rfl, scan_openQuote (q := .single) rfl]
    rfl
  · simp only [escape, if_neg hc, List.cons_append, List.nil_append]
    rw [scan_literal (action_single hc)]
    rfl

theorem scan_flatMap_escape (scope : Scope) (k : Nat) {p : Progress} (hp : p.quoting = .single)
    (cs rest : List Char) :
    scan scope k p (cs.flatMap escape ++ rest) =
      scan scope (k + (cs.flatMap escape).length) (p.append (String.ofList cs)) rest := by
  induction cs generalizing k p with
  | nil => rw [String.ofList_nil, append_empty]; rfl
  | cons c cs ih =>
    rw [List.flatMap_cons, List.append_assoc, scan_escape scope k hp,
      ih _ (p := p.append (String.singleton c)) hp, append_append, String.ofList_cons,
      List.length_append, Nat.add_assoc]

/-- **Every word has a spelling**, whatever its characters and whatever the scope. -/
theorem spells_quote (scope : Scope) (w : String) : Spells scope (quote w) w := by
  intro k p rest hp
  have hlen : k + (quote w).length = k + 1 + (w.toList.flatMap escape).length + 1 := by
    rw [← String.length_toList, toList_quote, List.length_cons, List.length_append,
      List.length_singleton]
    omega
  obtain ⟨quoting, pending, words⟩ := p
  cases hp
  rw [toList_quote, List.cons_append, List.append_assoc,
    scan_openQuote (q := .single) rfl, scan_flatMap_escape scope _ rfl, List.singleton_append,
    scan_openQuote (q := .bare) rfl, String.ofList_toList, hlen]
  rfl

/-! ## Lines of spellings -/

theorem Spells.scan_space {scope : Scope} {source word : String} (h : Spells scope source word)
    (k : Nat) {p : Progress} (hp : p.quoting = .bare) (hpending : p.pending = "")
    (rest : List Char) :
    scan scope k p (source.toList ++ ' ' :: rest) =
      scan scope (k + source.length + 1)
        { words := p.words ++ [word].filter (!·.isEmpty) } rest := by
  have hp' : (p.append word).quoting = .bare := hp
  rw [h k p _ hp, scan_endWord (action_eq_endWord_iff.mpr ⟨hp', rfl⟩), endWord_eq,
    quoting_append, pending_append, words_append, hp, hpending, String.empty_append]

theorem Spells.scan_end {scope : Scope} {source word : String} (h : Spells scope source word)
    (k : Nat) {p : Progress} (hp : p.quoting = .bare) (hpending : p.pending = "") :
    scan scope k p source.toList =
      .ok { words := p.words ++ [word].filter (!·.isEmpty) } := by
  have hp' : (p.append word).quoting = .bare := hp
  have hscan := h k p [] hp
  rw [List.append_nil] at hscan
  rw [hscan, scan_nil, endLine_of_bare hp', endWord_eq, quoting_append, pending_append,
    words_append, hp, hpending, String.empty_append]

/-- **A line of spellings** expands to the words that they spell. -/
theorem scan_unwords {scope : Scope} {sources words : List String}
    (h : List.Forall₂ (Spells scope) sources words) (k : Nat) {p : Progress}
    (hp : p.quoting = .bare) (hpending : p.pending = "") :
    scan scope k p (Text.unwords sources).toList =
      .ok { words := p.words ++ words.filter (!·.isEmpty) } := by
  induction h generalizing k p with
  | nil =>
    have hnil : (Text.unwords []).toList = [] := rfl
    rw [hnil, scan_nil, endLine_of_bare hp, endWord_eq, hp, hpending]
    simp
  | @cons source word sources words hs hrest ih =>
    cases hrest with
    | nil => exact hs.scan_end k hp hpending
    | @cons source' word' sources words hs' hrest =>
      have htext : (Text.unwords (source :: source' :: sources)).toList =
          source.toList ++ ' ' :: (Text.unwords (source' :: sources)).toList := by
        rw [Text.unwords, String.intercalate_cons_cons, String.toList_append,
          String.toList_append, List.append_assoc]
        rfl
      rw [htext, hs.scan_space k hp hpending, ih _ rfl rfl, List.append_assoc,
        ← List.filter_append]
      rfl

end LineShell
