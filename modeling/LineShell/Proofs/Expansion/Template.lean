import LineShell.Proofs.Expansion.Scan
import Mathlib.Data.Nat.Find

/-!
# Lines before their variables have values

A line is read in two steps. The first looks at the names that are bound and at nothing else, and
gives a `Template`: words made of characters and of references to variables. The second fills in the
values (`Progress.fill`). `feed_eq_fill` says that this is what scanning does, so a value never
decides where a word ends, which quotes are open or what a dollar sign refers to.

1. `Template.longestName` picks the longest bound start of a run outright, and agrees with the
   search of the scan (`longestName_eq_template`).
2. `scan_eq_fill` carries the two readings along a line, one character at a time.
3. `refers_of_mem_pieces` says where references come from: a dollar sign outside single quotes, and
   the longest bound name after it.
-/

namespace LineShell

/-- A piece of a word before the variables have values. -/
inductive Piece where
  | literal (c : Char)
  /-- The variable `name`, to which the dollar sign at `position` refers. -/
  | reference (position : Nat) (name : String)
  deriving DecidableEq, Repr

/-- The text that a piece stands for. -/
def Piece.text (scope : Scope) : Piece → String
  | .literal c => String.singleton c
  | .reference _ name => (scope.get? name).getD ""

/-- A line before the variables have values. -/
structure Template where
  /-- The quoting at the end of the line. -/
  quoting : Quoting
  /-- The first word, which goes on with the word that was being built before the line. -/
  first : List Piece
  /-- The further words. The last word of the line is finished by its end, unless a quote is open. -/
  rest : List (List Piece) := []
  deriving DecidableEq, Repr

namespace Template

/-- The words in order. There is always one, which may have no pieces. -/
def words (t : Template) : List (List Piece) := t.first :: t.rest

/-- Puts a piece in front of the first word. -/
def addPiece (x : Piece) (t : Template) : Template := { t with first := x :: t.first }

/-- Puts a word without pieces in front. -/
def addWord (t : Template) : Template := { t with first := [], rest := t.words }

/-- The longest of the bound names that a run of characters starts with. -/
def longestName (bound : String → Bool) (run : List Char) : Option String :=
  match Nat.findGreatest (fun n => bound (String.ofList (run.take n)) = true) run.length with
  | 0 => none
  | n + 1 => some (String.ofList (run.take (n + 1)))

/-- Reads the rest of a line, whose first character stands at `position`. -/
def read (bound : String → Bool) (position : Nat) (quoting : Quoting) :
    List Char → Except ExpansionError Template
  | [] => .ok { quoting, first := [] }
  | c :: cs =>
    match Progress.action quoting c with
    | .openQuote quoting => read bound (position + 1) quoting cs
    | .endWord => (read bound (position + 1) quoting cs).map addWord
    | .literal => (read bound (position + 1) quoting cs).map (addPiece (.literal c))
    | .reference =>
      match longestName bound (nameRun cs) with
      | none => .error ⟨position⟩
      | some name =>
        (read bound (position + 1 + name.length) quoting (cs.drop name.length)).map
          (addPiece (.reference position name))
termination_by cs => cs.length

/-- The template of a line that starts under the given quoting, where the names in `bound` are
bound. -/
def ofLine (bound : String → Bool) (quoting : Quoting) (line : String) :
    Except ExpansionError Template :=
  read bound 0 quoting line.toList

/-- The text of a word once the variables have values. -/
def text (scope : Scope) (word : List Piece) : String := String.join (word.map (·.text scope))

/-- The texts of the words, the first of them going on with `pending`. -/
def texts (scope : Scope) (pending : String) (t : Template) : List String :=
  (pending ++ text scope t.first) :: t.rest.map (text scope)

end Template

/-- Fills in the values and adds the words of a line to the progress. Words that are then empty are
left out. While a quote is open the last word is still being built. -/
def Progress.fill (scope : Scope) (p : Progress) (t : Template) : Progress :=
  let texts := t.texts scope p.pending
  match t.quoting with
  | .bare => { words := p.words ++ texts.filter (!·.isEmpty) }
  | quoting =>
    { quoting
      pending := texts.getLastD "" ++ "\n"
      words := p.words ++ texts.dropLast.filter (!·.isEmpty) }

/-! ## The longest name, twice -/

namespace Template

variable {bound : String → Bool} {run : List Char} {name : String}

theorem eq_ofList_take_of_prefix (h : name.toList <+: run) :
    name = String.ofList (run.take name.length) := by
  apply String.toList_inj.mp
  rw [String.toList_ofList, ← String.length_toList]
  exact List.prefix_iff_eq_take.mp h

theorem isLongestName_of_longestName (h : longestName bound run = some name) :
    IsLongestName bound run name := by
  unfold longestName at h
  split at h
  · cases h
  · rename_i n hn
    rw [Option.some.injEq] at h
    subst h
    obtain ⟨hle, hbound, hmax⟩ := Nat.findGreatest_eq_iff.mp hn
    have hlen : (String.ofList (run.take (n + 1))).length = n + 1 := by
      rw [String.length_ofList, List.length_take, Nat.min_eq_left hle]
    refine ⟨hbound (Nat.succ_ne_zero n), ?_, ?_, ?_⟩
    · intro hempty
      rw [hempty, String.length_empty] at hlen
      omega
    · rw [String.toList_ofList]
      exact List.take_prefix _ _
    · intro other hb hother
      rw [hlen]
      by_contra hgt
      have hother_le : other.length ≤ run.length := by
        rw [← String.length_toList]
        exact hother.length_le
      apply hmax (Nat.lt_of_not_le hgt) hother_le
      rwa [← eq_ofList_take_of_prefix hother]

theorem longestName_eq_some_iff :
    longestName bound run = some name ↔ IsLongestName bound run name := by
  refine ⟨isLongestName_of_longestName, fun hname => ?_⟩
  have hpos : name.length ≠ 0 := by
    rw [← String.length_toList]
    exact fun h => hname.ne_empty (String.toList_eq_nil_iff.mp (List.length_eq_zero_iff.mp h))
  have hfind : Nat.findGreatest (fun n => bound (String.ofList (run.take n)) = true) run.length =
      name.length := by
    rw [Nat.findGreatest_eq_iff]
    refine ⟨?_, fun _ => ?_, fun n hlt hle hb => ?_⟩
    · rw [← String.length_toList]
      exact hname.isStart.length_le
    · rw [← eq_ofList_take_of_prefix hname.isStart]
      exact hname.isBound
    · have hn := hname.longest _ hb (by rw [String.toList_ofList]; exact List.take_prefix _ _)
      rw [String.length_ofList, List.length_take, Nat.min_eq_left hle] at hn
      omega
  unfold longestName
  rw [hfind]
  obtain ⟨n, hn⟩ := Nat.exists_eq_succ_of_ne_zero hpos
  rw [hn]
  show some (String.ofList (run.take (n + 1))) = some name
  rw [← Nat.succ_eq_add_one, ← hn, ← eq_ofList_take_of_prefix hname.isStart]

end Template

theorem Scope.longestName_eq_template (scope : Scope) (cs : List Char) :
    scope.longestName "" cs = Template.longestName scope.contains (nameRun cs) := by
  apply Option.ext
  intro name
  rw [Scope.longestName_eq_some_iff, Template.longestName_eq_some_iff]

/-! ## Filling in -/

namespace Template

theorem texts_addPiece (scope : Scope) (pending : String) (x : Piece) (t : Template) :
    (t.addPiece x).texts scope pending = t.texts scope (pending ++ x.text scope) := by
  simp only [texts, addPiece, text, List.map_cons, String.join_cons, String.append_assoc]

theorem texts_addWord (scope : Scope) (pending : String) (t : Template) :
    t.addWord.texts scope pending = pending :: t.texts scope "" := by
  simp [texts, addWord, text, words]

theorem texts_ne_nil (scope : Scope) (pending : String) (t : Template) :
    t.texts scope pending ≠ [] := List.cons_ne_nil _ _

end Template

namespace Progress

section Fill

variable (scope : Scope) (p : Progress) {t : Template}

theorem fill_of_bare (h : t.quoting = .bare) :
    p.fill scope t = { words := p.words ++ (t.texts scope p.pending).filter (!·.isEmpty) } := by
  simp only [fill, h]

theorem fill_of_ne_bare (h : t.quoting ≠ .bare) :
    p.fill scope t =
      { quoting := t.quoting
        pending := (t.texts scope p.pending).getLastD "" ++ "\n"
        words := p.words ++ (t.texts scope p.pending).dropLast.filter (!·.isEmpty) } := by
  cases hq : t.quoting with
  | bare => exact absurd hq h
  | single => simp only [fill, hq]
  | double => simp only [fill, hq]

/-- The values do not decide which quotes are open. -/
theorem quoting_fill (t : Template) : (p.fill scope t).quoting = t.quoting := by
  by_cases hq : t.quoting = .bare
  · rw [fill_of_bare scope p hq, hq]
  · rw [fill_of_ne_bare scope p hq]

theorem fill_nil : p.fill scope { quoting := p.quoting, first := [] } = p.endLine := by
  have htexts : Template.texts scope p.pending { quoting := p.quoting, first := [] } =
      [p.pending] := by
    simp [Template.texts, Template.text]
  by_cases hq : p.quoting = .bare
  · rw [fill_of_bare scope p hq, htexts, endLine_of_bare hq, endWord_eq, hq]
  · rw [fill_of_ne_bare scope p hq, htexts, endLine_of_ne_bare hq]
    simp [append]

theorem fill_addPiece (x : Piece) :
    p.fill scope (t.addPiece x) = (p.append (x.text scope)).fill scope t := by
  simp only [fill, Template.texts_addPiece, pending_append, words_append]
  rfl

theorem fill_addWord : p.fill scope t.addWord = p.endWord.fill scope t := by
  by_cases hq : t.quoting = .bare
  · have hq' : t.addWord.quoting = .bare := hq
    rw [fill_of_bare scope p hq', fill_of_bare scope p.endWord hq, Template.texts_addWord,
      words_endWord, pending_endWord, List.append_assoc, ← List.filter_append]
    rfl
  · have hq' : t.addWord.quoting ≠ .bare := hq
    have hne := t.texts_ne_nil scope ""
    have hlast : (p.pending :: t.texts scope "").getLastD "" = (t.texts scope "").getLastD "" := by
      rw [List.getLastD_cons, List.getLastD_eq_getLast?, List.getLastD_eq_getLast?,
        List.getLast?_eq_some_getLast hne]
      rfl
    rw [fill_of_ne_bare scope p hq', fill_of_ne_bare scope p.endWord hq, Template.texts_addWord,
      words_endWord, pending_endWord, List.append_assoc, ← List.filter_append,
      List.dropLast_cons_of_ne_nil hne, hlast]
    rfl

end Fill

end Progress

/-! ## One character -/

namespace Template

section Equations

variable {bound : String → Bool} {k : Nat} {q : Quoting} {c : Char} {cs : List Char}

@[simp] theorem read_nil : read bound k q [] = .ok { quoting := q, first := [] } := by
  rw [read]

theorem read_openQuote {q' : Quoting} (h : Progress.action q c = .openQuote q') :
    read bound k q (c :: cs) = read bound (k + 1) q' cs := by
  rw [read, h]

theorem read_endWord (h : Progress.action q c = .endWord) :
    read bound k q (c :: cs) = (read bound (k + 1) q cs).map addWord := by
  rw [read, h]

theorem read_literal (h : Progress.action q c = .literal) :
    read bound k q (c :: cs) = (read bound (k + 1) q cs).map (addPiece (.literal c)) := by
  rw [read, h]

theorem read_unbound (h : Progress.action q c = .reference)
    (hname : longestName bound (nameRun cs) = none) :
    read bound k q (c :: cs) = .error ⟨k⟩ := by
  rw [read, h]
  simp only [hname]

theorem read_reference {name : String} (h : Progress.action q c = .reference)
    (hname : longestName bound (nameRun cs) = some name) :
    read bound k q (c :: cs) = (read bound (k + 1 + name.length) q (cs.drop name.length)).map
      (addPiece (.reference k name)) := by
  rw [read, h]
  simp only [hname]

end Equations

end Template

/-! ## Scanning is reading and filling in -/

theorem exists_of_map_eq_ok {f : Template → Template} {x : Except ExpansionError Template}
    {t : Template} (h : x.map f = .ok t) : ∃ u, x = .ok u ∧ f u = t := by
  cases x with
  | error e => cases h
  | ok u => exact ⟨u, rfl, Except.ok.inj h⟩

theorem map_fill_map {scope : Scope} {p p' : Progress} {f : Template → Template}
    (h : ∀ t, p.fill scope (f t) = p'.fill scope t) (x : Except ExpansionError Template) :
    (x.map f).map (p.fill scope) = x.map (p'.fill scope) := by
  cases x with
  | error e => rfl
  | ok t => exact congrArg Except.ok (h t)

/-- Along the rest of a line: the template has the structure, the values only fill it in. -/
theorem Progress.scan_eq_fill (scope : Scope) (k : Nat) (p : Progress) (cs : List Char) :
    scan scope k p cs = (Template.read scope.contains k p.quoting cs).map (p.fill scope) := by
  induction k, p, cs using scan_induction scope with
  | nil k p =>
    rw [scan_nil, Template.read_nil, ← fill_nil scope p]
    rfl
  | openQuote k p c cs q h ih =>
    rw [scan_openQuote h, Template.read_openQuote h, ih]
    rfl
  | endWord k p c cs h ih =>
    rw [scan_endWord h, Template.read_endWord h, map_fill_map fun t => fill_addWord scope p, ih,
      quoting_endWord]
  | literal k p c cs h ih =>
    rw [scan_literal h, Template.read_literal h, map_fill_map fun t => fill_addPiece scope p _, ih]
    rfl
  | unbound k p c cs h hname =>
    rw [Scope.longestName_eq_template] at hname
    rw [scan_unbound h (by rw [Scope.longestName_eq_template, hname]),
      Template.read_unbound h hname]
    rfl
  | reference k p c cs name h hname ih =>
    rw [scan_reference h hname, ih]
    rw [Scope.longestName_eq_template] at hname
    rw [Template.read_reference h hname, map_fill_map fun t => fill_addPiece scope p _]
    rfl

/-- **Values only fill in.** A line is scanned by reading its template and filling in the
values. -/
theorem Progress.feed_eq_fill (scope : Scope) (p : Progress) (line : String) :
    p.feed scope line =
      (Template.ofLine scope.contains p.quoting line).map (p.fill scope) :=
  scan_eq_fill scope 0 p line.toList

/-! ## Where references come from -/

namespace Template

/-- The pieces of all words in order. -/
def pieces (t : Template) : List Piece := t.words.flatten

@[simp] theorem pieces_addPiece (x : Piece) (t : Template) :
    (t.addPiece x).pieces = x :: t.pieces := rfl

@[simp] theorem pieces_addWord (t : Template) : t.addWord.pieces = t.pieces := rfl

variable {bound : String → Bool}

/-- In `cs`, whose first character stands at `k` under the quoting `q`, the dollar sign at
`position` is read outside single quotes and refers to `name`. -/
def Refers (bound : String → Bool) (k : Nat) (q : Quoting) (cs : List Char) (position : Nat)
    (name : String) : Prop :=
  ∃ before after, cs = before ++ '$' :: after ∧ position = k + before.length ∧
    (∃ t, read bound k q before = .ok t ∧ t.quoting ≠ .single) ∧
    IsLongestName bound (nameRun after) name

/-- A reference after `pre` is one of the whole text, if reading `pre` leads to where the reference
was found, whatever of the text follows. -/
theorem Refers.append {k k' i : Nat} {q q' : Quoting} {cs : List Char} {n : String}
    (pre : List Char) (f : Template → Template) (hf : ∀ t, (f t).quoting = t.quoting)
    (hk : k' = k + pre.length)
    (hread : ∀ before, before <+: cs →
      read bound k q (pre ++ before) = (read bound k' q' before).map f)
    (h : Refers bound k' q' cs i n) : Refers bound k q (pre ++ cs) i n := by
  obtain ⟨before, after, rfl, hi, ⟨t, ht, hquoting⟩, hname⟩ := h
  refine ⟨pre ++ before, after, (List.append_assoc _ _ _).symm, ?_, ⟨f t, ?_, ?_⟩, hname⟩
  · rw [hi, hk, List.length_append, Nat.add_assoc]
  · rw [hread before (List.prefix_append _ _), ht]
    rfl
  · rwa [hf]

theorem refers_of_mem_pieces {k i : Nat} {q : Quoting} {cs : List Char} {t : Template}
    {n : String} (ht : read bound k q cs = .ok t) (hin : Piece.reference i n ∈ t.pieces) :
    Refers bound k q cs i n := by
  fun_induction read bound k q cs generalizing t with
  | case1 k q =>
    rw [Except.ok.injEq] at ht
    subst ht
    cases hin
  | case2 k q c cs q' h ih =>
    refine (ih ht hin).append [c] id (fun _ => rfl) rfl fun before _ => ?_
    rw [List.singleton_append, read_openQuote h]
    cases read bound (k + 1) q' before <;> rfl
  | case3 k q c cs h ih =>
    obtain ⟨u, hu, rfl⟩ := exists_of_map_eq_ok ht
    rw [pieces_addWord] at hin
    exact (ih hu hin).append [c] addWord (fun _ => rfl) rfl fun before _ => read_endWord h
  | case4 k q c cs h ih =>
    obtain ⟨u, hu, rfl⟩ := exists_of_map_eq_ok ht
    rw [pieces_addPiece, List.mem_cons] at hin
    rcases hin with hin | hin
    · cases hin
    · exact (ih hu hin).append [c] (addPiece (.literal c)) (fun _ => rfl) rfl
        fun before _ => read_literal h
  | case5 k q c cs h hname => cases ht
  | case6 k q c cs h name hname ih =>
    obtain ⟨u, hu, rfl⟩ := exists_of_map_eq_ok ht
    have hlongest := longestName_eq_some_iff.mp hname
    obtain ⟨rfl, hq⟩ := Progress.action_eq_reference_iff.mp h
    rw [pieces_addPiece, List.mem_cons] at hin
    rcases hin with hin | hin
    · rw [Piece.reference.injEq] at hin
      obtain ⟨rfl, rfl⟩ := hin
      exact ⟨[], cs, rfl, rfl, ⟨_, read_nil, hq⟩, hlongest⟩
    · -- the name itself is read again from any text that goes on as this one does
      have hstart := (prefix_nameRun_iff.mp hlongest.isStart).1
      obtain ⟨rest, rfl⟩ := hstart
      rw [← String.length_toList, List.drop_left] at ih hu
      refine (ih hu hin).append ('$' :: name.toList) (addPiece (.reference k name))
        (fun _ => rfl) ?_ fun before hpre => ?_
      · rw [List.length_cons]
        omega
      · have hname' : longestName bound (nameRun (name.toList ++ before)) = some name :=
          longestName_eq_some_iff.mpr (hlongest.of_prefix
            (List.prefix_append_right_inj _ |>.mpr hpre) (List.prefix_append _ _))
        rw [List.cons_append, read_reference h hname', ← String.length_toList, List.drop_left]

end Template

/-! ## Hygiene -/

/-- Two scopes that bind the same names read every line alike: they report the same error, or fill in
the same template and end under the same quoting. -/
theorem Progress.feed_of_same_names {s t : Scope}
    (h : ∀ name, s.contains name = t.contains name) (p : Progress) (line : String) :
    (∃ e, p.feed s line = .error e ∧ p.feed t line = .error e) ∨
      ∃ u, Template.ofLine s.contains p.quoting line = .ok u ∧
        p.feed s line = .ok (p.fill s u) ∧ p.feed t line = .ok (p.fill t u) ∧
        (p.fill s u).quoting = (p.fill t u).quoting := by
  have hbound : t.contains = s.contains := funext fun name => (h name).symm
  rw [feed_eq_fill, feed_eq_fill, hbound]
  cases Template.ofLine s.contains p.quoting line with
  | error e => exact .inl ⟨e, rfl, rfl⟩
  | ok u =>
    refine .inr ⟨u, rfl, rfl, rfl, ?_⟩
    rw [quoting_fill, quoting_fill]

/-- **Substitution is hygienic and takes the longest name.** The template of a line depends on the
line, the quoting and the bound names. Its references come from dollar signs outside single quotes
and name the longest bound start of the run up to the next space. Scanning a line is filling in its
template, so scopes that bind the same names give the same error or fill in the same template. -/
theorem substitution_hygienic :
    (∀ (bound : String → Bool) (q : Quoting) (line : String) (t : Template),
      Template.ofLine bound q line = .ok t →
      ∀ word ∈ t.words, ∀ i name, Piece.reference i name ∈ word →
      ∃ before after, line.toList = before ++ '$' :: after ∧ before.length = i ∧
        (∃ u, Template.ofLine bound q (String.ofList before) = .ok u ∧ u.quoting ≠ .single) ∧
        IsLongestName bound (after.takeWhile (· ≠ ' ')) name) ∧
    (∀ (scope : Scope) (p : Progress) (line : String),
      p.feed scope line = (Template.ofLine scope.contains p.quoting line).map (p.fill scope)) ∧
    (∀ s t : Scope, (∀ name, s.contains name = t.contains name) →
      ∀ (p : Progress) (line : String),
      (∃ e, p.feed s line = .error e ∧ p.feed t line = .error e) ∨
        ∃ u, Template.ofLine s.contains p.quoting line = .ok u ∧
          p.feed s line = .ok (p.fill s u) ∧ p.feed t line = .ok (p.fill t u) ∧
          (p.fill s u).quoting = (p.fill t u).quoting) := by
  refine ⟨?_, Progress.feed_eq_fill, fun s t h p line => Progress.feed_of_same_names h p line⟩
  intro bound q line t ht word hword i name hname
  have hin : Piece.reference i name ∈ t.pieces := List.mem_flatten.mpr ⟨word, hword, hname⟩
  obtain ⟨before, after, hline, hi, ⟨u, hu, hquoting⟩, hlongest⟩ :=
    Template.refers_of_mem_pieces ht hin
  refine ⟨before, after, hline, ?_, ⟨u, ?_, hquoting⟩, hlongest⟩
  · rw [hi, Nat.zero_add]
  · rw [Template.ofLine, String.toList_ofList, hu]

/-- Two variables of which one name starts with the other. -/
def startingAlike (short long : String) : Scope := .ofList [("t", short), ("ts", long)]

theorem contains_startingAlike (short long short' long' name : String) :
    (startingAlike short long).contains name = (startingAlike short' long').contains name := by
  simp only [startingAlike, Scope.ofList, Scope.setAll, List.foldl_cons, List.foldl_nil,
    Scope.contains_eq_isSome, Scope.get?_set]
  split_ifs <;> rfl

/-- Of the two names that `tsx` starts with, the longer is taken, and its value is not read again:
quotes and spaces in it make no difference. -/
theorem substitution_hygienic_ts :
    Template.ofLine (startingAlike "x" "a 'b").contains .bare "l$tsx '$t'" =
      .ok ⟨.bare, [.literal 'l', .reference 1 "ts", .literal 'x'],
        [[.literal '$', .literal 't']]⟩ ∧
    (∃ before after, "l$tsx '$t'".toList = before ++ '$' :: after ∧ before.length = 1 ∧
      (∃ u, Template.ofLine (startingAlike "x" "a 'b").contains .bare
        (String.ofList before) = .ok u ∧ u.quoting ≠ .single) ∧
      IsLongestName (startingAlike "x" "a 'b").contains (after.takeWhile (· ≠ ' ')) "ts") ∧
    Progress.feed (startingAlike "x" "a 'b") {} "l$tsx '$t'" =
      .ok ⟨.bare, "", ["la 'bx", "$t"]⟩ ∧
    ∃ u, Progress.feed (startingAlike "x" "a 'b") {} "l$tsx '$t'" =
        .ok (Progress.fill (startingAlike "x" "a 'b") {} u) ∧
      Progress.feed (startingAlike "" "$") {} "l$tsx '$t'" =
        .ok (Progress.fill (startingAlike "" "$") {} u) := by
  have ht : Template.ofLine (startingAlike "x" "a 'b").contains .bare
      "l$tsx '$t'" = .ok ⟨.bare, [.literal 'l', .reference 1 "ts", .literal 'x'],
        [[.literal '$', .literal 't']]⟩ := by decide +kernel
  have hfeed : Progress.feed (startingAlike "x" "a 'b") {} "l$tsx '$t'" =
      .ok ⟨.bare, "", ["la 'bx", "$t"]⟩ := by
    rw [substitution_hygienic.2.1]
    decide +kernel
  refine ⟨ht, ?_, hfeed, ?_⟩
  · exact substitution_hygienic.1 _ _ _ _ ht _ List.mem_cons_self 1 "ts" (by decide)
  · rcases substitution_hygienic.2.2 (startingAlike "x" "a 'b") (startingAlike "" "$")
      (contains_startingAlike _ _ _ _) {} "l$tsx '$t'" with ⟨e, he, -⟩ | ⟨u, -, hs, ht, -⟩
    · rw [hfeed] at he
      cases he
    · exact ⟨u, hs, ht⟩

end LineShell
