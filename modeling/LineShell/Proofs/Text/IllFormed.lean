import LineShell.Proofs.Text.Utf8
import Mathlib.Data.List.Infix

/-!
# Reading any bytes

Bytes that encode no text are cut where their decoder cuts them, into characters and maximal
ill-formed parts (`Cut`). An ill-formed part is the longest start of some character's bytes that the
bytes hold there, or one byte if no character starts with it (`IllFormed`).

1. What is read as a character are the bytes of that character (`eq_append_of_piecesFrom_some`), the
   converse of `piecesFrom_utf8EncodeChar`. Here the bounds on the second byte have to keep overlong
   forms, surrogates and numbers above U+10FFFF away (`readLead_cases`).
2. While the decoder expects a byte, those that it has read are a start of some character, since
   whatever is expected can still come (`exists_piecesFrom_tail`). So an ill-formed part, which ends
   before the first byte that does not fit, is one, and the longest (`exists_illFormed`).

The pieces of the decoder are such a cut (`cut_pieces`), and there is no other (`Cut.unique`). So
the lenient reading puts U+FFFD in place of each maximal ill-formed part and of nothing else
(`lossyText_iff`).
-/

namespace LineShell.Text.Utf8

/-- Some character's bytes start with these. -/
def IsStart (bytes : List UInt8) : Prop := ∃ c : Char, bytes <+: String.utf8EncodeChar c

/-- What stands in front of `rest` is a maximal ill-formed part. -/
structure IllFormed (part rest : List UInt8) : Prop where
  ne_nil : part ≠ []
  no_char : ∀ c : Char, ¬String.utf8EncodeChar c <+: part ++ rest
  start : IsStart part ∨ part.length = 1
  maximal : ∀ p, p <+: part ++ rest → IsStart p → p <+: part

/-- The bytes are cut into characters and maximal ill-formed parts, `none` standing for these. -/
inductive Cut : List UInt8 → List (Option Char) → Prop where
  | nil : Cut [] []
  | char (c : Char) {rest : List UInt8} {ps : List (Option Char)} (h : Cut rest ps) :
      Cut (String.utf8EncodeChar c ++ rest) (some c :: ps)
  | illFormed {part rest : List UInt8} {ps : List (Option Char)} (hpart : IllFormed part rest)
      (h : Cut rest ps) : Cut (part ++ rest) (none :: ps)

/-! ## First bytes -/

/-- What a first byte leads to: it is a character, or none starts with it, or it says how many bytes
follow and what the bounds on the next of them are. -/
inductive LeadCase (b : UInt8) : Prop where
  | single (hb : b.toNat < 128) (h : readLead b = ([some (Char.ofNat b.toNat)], .lead))
  | illFormed (h : readLead b = ([none], .lead))
  | two (hb : 194 ≤ b.toNat) (hb' : b.toNat < 224)
      (h : readLead b = ([], .tail 0x80 0xBF 0 (b.toNat - 192)))
  | three (low high : UInt8) (hb : 224 ≤ b.toNat) (hb' : b.toNat < 240) (hlow : 128 ≤ low.toNat)
      (hle : low.toNat ≤ high.toNat) (hhigh : high.toNat < 192)
      (hlong : b.toNat = 224 → 160 ≤ low.toNat) (hsurrogate : b.toNat = 237 → high.toNat < 160)
      (h : readLead b = ([], .tail low high 1 (b.toNat - 224)))
  | four (low high : UInt8) (hb : 240 ≤ b.toNat) (hb' : b.toNat < 245) (hlow : 128 ≤ low.toNat)
      (hle : low.toNat ≤ high.toNat) (hhigh : high.toNat < 192)
      (hlong : b.toNat = 240 → 144 ≤ low.toNat) (hlarge : b.toNat = 244 → high.toNat < 144)
      (h : readLead b = ([], .tail low high 2 (b.toNat - 240)))

theorem leadCase (b : UInt8) : LeadCase b := by
  have hb := b.toNat_lt
  have hread := readLead_byte hb
  rw [UInt8.ofNat_toNat] at hread
  by_cases h₁ : b.toNat ≤ 0x7F
  · exact .single (by omega) (hread.trans (if_pos h₁))
  rw [if_neg h₁] at hread
  by_cases h₂ : b.toNat < 0xC2
  · exact .illFormed (hread.trans (if_pos h₂))
  rw [if_neg h₂] at hread
  by_cases h₃ : b.toNat ≤ 0xDF
  · exact .two (by omega) (by omega) (hread.trans (if_pos h₃))
  rw [if_neg h₃] at hread
  by_cases h₄ : b.toNat = 0xE0
  · exact .three 0xA0 0xBF (by omega) (by omega) (by decide) (by decide) (by decide)
      (fun _ => by decide) (by omega) (by rw [hread, if_pos h₄, h₄])
  rw [if_neg h₄] at hread
  by_cases h₅ : b.toNat = 0xED
  · exact .three 0x80 0x9F (by omega) (by omega) (by decide) (by decide) (by decide)
      (by omega) (fun _ => by decide) (by rw [hread, if_pos h₅, h₅])
  rw [if_neg h₅] at hread
  by_cases h₆ : b.toNat ≤ 0xEF
  · exact .three 0x80 0xBF (by omega) (by omega) (by decide) (by decide) (by decide)
      (by omega) (by omega) (hread.trans (if_pos h₆))
  rw [if_neg h₆] at hread
  by_cases h₇ : b.toNat = 0xF0
  · exact .four 0x90 0xBF (by omega) (by omega) (by decide) (by decide) (by decide)
      (fun _ => by decide) (by omega) (by rw [hread, if_pos h₇, h₇])
  rw [if_neg h₇] at hread
  by_cases h₈ : b.toNat ≤ 0xF3
  · exact .four 0x80 0xBF (by omega) (by omega) (by decide) (by decide) (by decide)
      (by omega) (by omega) (hread.trans (if_pos h₈))
  rw [if_neg h₈] at hread
  by_cases h₉ : b.toNat = 0xF4
  · exact .four 0x80 0x8F (by omega) (by omega) (by decide) (by decide) (by decide)
      (by omega) (fun _ => by decide) (by rw [hread, if_pos h₉, h₉])
  · exact .illFormed (hread.trans (if_neg h₉))

/-- A first byte is a piece of its own, or bytes have to follow it. -/
theorem readLead_cases (b : UInt8) :
    (∃ piece, readLead b = ([piece], .lead)) ∨
      ∃ low high more bits, low ≤ high ∧ readLead b = ([], .tail low high more bits) := by
  cases leadCase b with
  | single _ h => exact .inl ⟨_, h⟩
  | illFormed h => exact .inl ⟨_, h⟩
  | two _ _ h => exact .inr ⟨_, _, _, _, by decide, h⟩
  | three _ _ _ _ _ hle _ _ _ h => exact .inr ⟨_, _, _, _, UInt8.le_iff_toNat_le.mpr hle, h⟩
  | four _ _ _ _ _ hle _ _ _ h => exact .inr ⟨_, _, _, _, UInt8.le_iff_toNat_le.mpr hle, h⟩

/-! ## Bytes that are read as a character -/

theorem toNat_ofNat {n : Nat} (h : n.isValidChar) : (Char.ofNat n).toNat = n := by
  rw [Char.ofNat, dif_pos h]
  rfl

section Bytes

variable {b b₁ b₂ b₃ : UInt8} {n : Nat} (h₁ : 128 ≤ b₁.toNat ∧ b₁.toNat < 192)
  (h₂ : 128 ≤ b₂.toNat ∧ b₂.toNat < 192) (h₃ : 128 ≤ b₃.toNat ∧ b₃.toNat < 192)

theorem utf8EncodeChar_single (hb : b.toNat < 128) :
    String.utf8EncodeChar (Char.ofNat b.toNat) = [b] := by
  have hn := toNat_ofNat (n := b.toNat) (by omega)
  rcases utf8EncodeChar_cases (Char.ofNat b.toNat) with
    ⟨-, hbytes⟩ | ⟨h, -⟩ | ⟨h, -⟩ | ⟨h, -⟩
  · rw [hbytes, hn, UInt8.ofNat_toNat]
  all_goals omega

include h₁ in
theorem utf8EncodeChar_two (hb : 194 ≤ b.toNat) (hb' : b.toNat < 224)
    (hn : n = (b.toNat - 192) * 64 + (b₁.toNat - 128)) :
    String.utf8EncodeChar (Char.ofNat n) = [b, b₁] := by
  have hchar := toNat_ofNat (n := n) (by omega)
  rcases utf8EncodeChar_cases (Char.ofNat n) with
    ⟨h, -⟩ | ⟨-, -, hbytes⟩ | ⟨h, -⟩ | ⟨h, -⟩
  case inr.inl =>
    rw [hbytes, hchar, (byte_eq_iff (by omega) b).mpr (by omega),
      (byte_eq_iff (by omega) b₁).mpr (by omega)]
  all_goals omega

include h₁ h₂ in
theorem utf8EncodeChar_three (hb : 224 ≤ b.toNat) (hb' : b.toNat < 240)
    (hlong : b.toNat = 224 → 160 ≤ b₁.toNat) (hsurrogate : b.toNat = 237 → b₁.toNat < 160)
    (hn : n = ((b.toNat - 224) * 64 + (b₁.toNat - 128)) * 64 + (b₂.toNat - 128)) :
    String.utf8EncodeChar (Char.ofNat n) = [b, b₁, b₂] := by
  have hchar := toNat_ofNat (n := n) (by omega)
  rcases utf8EncodeChar_cases (Char.ofNat n) with
    ⟨h, -⟩ | ⟨-, h, -⟩ | ⟨-, -, -, hbytes⟩ | ⟨h, -⟩
  case inr.inr.inl =>
    rw [hbytes, hchar, (byte_eq_iff (by omega) b).mpr (by omega),
      (byte_eq_iff (by omega) b₁).mpr (by omega), (byte_eq_iff (by omega) b₂).mpr (by omega)]
  all_goals omega

include h₁ h₂ h₃ in
theorem utf8EncodeChar_four (hb : 240 ≤ b.toNat) (hb' : b.toNat < 245)
    (hlong : b.toNat = 240 → 144 ≤ b₁.toNat) (hlarge : b.toNat = 244 → b₁.toNat < 144)
    (hn : n = (((b.toNat - 240) * 64 + (b₁.toNat - 128)) * 64 + (b₂.toNat - 128)) * 64 +
      (b₃.toNat - 128)) :
    String.utf8EncodeChar (Char.ofNat n) = [b, b₁, b₂, b₃] := by
  have hchar := toNat_ofNat (n := n) (by omega)
  rcases utf8EncodeChar_cases (Char.ofNat n) with
    ⟨h, -⟩ | ⟨-, h, -⟩ | ⟨-, h, -⟩ | ⟨-, -, hbytes⟩
  case inr.inr.inr =>
    rw [hbytes, hchar, (byte_eq_iff (by omega) b).mpr (by omega),
      (byte_eq_iff (by omega) b₁).mpr (by omega), (byte_eq_iff (by omega) b₂).mpr (by omega),
      (byte_eq_iff (by omega) b₃).mpr (by omega)]
  all_goals omega

end Bytes

section Tail

variable {low high : UInt8} {bits more : Nat} {bytes : List UInt8} {c : Char}
  {ps : List (Option Char)}

theorem exists_byte_of_piecesFrom_some
    (h : piecesFrom (.tail low high more bits) bytes = some c :: ps) :
    ∃ b rest, bytes = b :: rest ∧ low.toNat ≤ b.toNat ∧ b.toNat ≤ high.toNat ∧
      match more with
      | 0 => c = Char.ofNat (bits * 64 + (b.toNat - 128)) ∧ ps = piecesFrom .lead rest
      | more + 1 => piecesFrom (.tail 0x80 0xBF more (bits * 64 + (b.toNat - 128))) rest =
          some c :: ps := by
  cases bytes with
  | nil => cases h
  | cons b rest =>
    rw [piecesFrom_cons, readByte] at h
    by_cases hb : low ≤ b ∧ b ≤ high
    · refine ⟨b, rest, rfl, UInt8.le_iff_toNat_le.mp hb.1, UInt8.le_iff_toNat_le.mp hb.2, ?_⟩
      rw [if_pos hb] at h
      cases more with
      | zero =>
        obtain ⟨hc, hps⟩ := List.cons.inj h
        exact ⟨(Option.some.inj hc).symm, hps.symm⟩
      | succ more => exact h
    · rw [if_neg hb] at h
      cases h

end Tail

/-- **What is read as a character are the bytes of that character**, and what is read after it are
the bytes behind them. -/
theorem eq_append_of_piecesFrom_some {bytes : List UInt8} {c : Char} {ps : List (Option Char)}
    (h : piecesFrom .lead bytes = some c :: ps) :
    ∃ rest, bytes = String.utf8EncodeChar c ++ rest ∧ ps = piecesFrom .lead rest := by
  -- the bounds on all bytes but the second
  have hnext {b : UInt8} (hlow : (0x80 : UInt8).toNat ≤ b.toNat)
      (hhigh : b.toNat ≤ (0xBF : UInt8).toNat) : 128 ≤ b.toNat ∧ b.toNat < 192 :=
    ⟨hlow, Nat.lt_succ_of_le hhigh⟩
  cases bytes with
  | nil => cases h
  | cons b bytes =>
    rw [piecesFrom_cons, readByte] at h
    cases leadCase b with
    | single hb hlead =>
      rw [hlead] at h
      obtain ⟨hc, hps⟩ := List.cons.inj h
      refine ⟨bytes, ?_, hps.symm⟩
      rw [← Option.some.inj hc, utf8EncodeChar_single hb]
      rfl
    | illFormed hlead =>
      rw [hlead] at h
      cases h
    | two hb hb' hlead =>
      rw [hlead, List.nil_append] at h
      obtain ⟨b₁, rest, rfl, hlow, hhigh, hc, hps⟩ := exists_byte_of_piecesFrom_some h
      exact ⟨rest, by rw [hc, utf8EncodeChar_two (hnext hlow hhigh) hb hb' rfl]; rfl, hps⟩
    | three low high hb hb' hl hle hh hlong hsurrogate hlead =>
      rw [hlead, List.nil_append] at h
      obtain ⟨b₁, rest₁, rfl, hlow₁, hhigh₁, h⟩ := exists_byte_of_piecesFrom_some h
      obtain ⟨b₂, rest, rfl, hlow₂, hhigh₂, hc, hps⟩ := exists_byte_of_piecesFrom_some h
      refine ⟨rest, ?_, hps⟩
      rw [hc, utf8EncodeChar_three ⟨by omega, by omega⟩ (hnext hlow₂ hhigh₂) hb hb' (by omega)
        (by omega) rfl]
      rfl
    | four low high hb hb' hl hle hh hlong hlarge hlead =>
      rw [hlead, List.nil_append] at h
      obtain ⟨b₁, rest₁, rfl, hlow₁, hhigh₁, h⟩ := exists_byte_of_piecesFrom_some h
      obtain ⟨b₂, rest₂, rfl, hlow₂, hhigh₂, h⟩ := exists_byte_of_piecesFrom_some h
      obtain ⟨b₃, rest, rfl, hlow₃, hhigh₃, hc, hps⟩ := exists_byte_of_piecesFrom_some h
      refine ⟨rest, ?_, hps⟩
      rw [hc, utf8EncodeChar_four ⟨by omega, by omega⟩ (hnext hlow₂ hhigh₂) (hnext hlow₃ hhigh₃)
        hb hb' (by omega) (by omega) rfl]
      rfl

/-! ## Ill-formed parts -/

theorem piecesFrom_tail_ne_nil (low high : UInt8) (more bits : Nat) (bytes : List UInt8) :
    piecesFrom (.tail low high more bits) bytes ≠ [] := by
  induction bytes generalizing low high more bits with
  | nil => exact List.cons_ne_nil none []
  | cons b bytes ih =>
    rw [piecesFrom_cons, readByte]
    split
    · cases more with
      | zero => exact List.cons_ne_nil _ _
      | succ more => exact ih _ _ _ _
    · exact List.cons_ne_nil _ _

theorem eq_nil_of_pieces {bytes : List UInt8} (h : pieces bytes = []) : bytes = [] := by
  cases bytes with
  | nil => rfl
  | cons b bytes =>
    rw [pieces, piecesFrom_cons, readByte, List.append_eq_nil_iff] at h
    obtain ⟨hdone, hrest⟩ := h
    rcases readLead_cases b with ⟨piece, hlead⟩ | ⟨low, high, more, bits, -, hlead⟩
    · rw [hlead] at hdone
      cases hdone
    · rw [hlead] at hrest
      exact absurd hrest (piecesFrom_tail_ne_nil low high more bits bytes)

/-- What is expected can come, by induction on the number of bytes. -/
theorem exists_piecesFrom_tail (low high : UInt8) (h : low ≤ high) (more bits : Nat) :
    ∃ tail c, piecesFrom (.tail low high more bits) tail = [some c] := by
  have hlow : low ≤ low ∧ low ≤ high := ⟨UInt8.le_refl low, h⟩
  induction more generalizing low high bits with
  | zero => exact ⟨[low], _, by rw [piecesFrom_cons, readByte, if_pos hlow]; rfl⟩
  | succ more ih =>
    obtain ⟨tail, c, htail⟩ := ih 0x80 0xBF (by decide) (bits * 64 + (low.toNat - 0x80))
      (by decide)
    exact ⟨low :: tail, c, by rw [piecesFrom_cons, readByte, if_pos hlow]; exact htail⟩

/-- The decoder has read `front`, without completing a piece, and expects a byte. -/
structure Reading (front : List UInt8) (low high : UInt8) (more bits : Nat) : Prop where
  ne_nil : front ≠ []
  low_le : low ≤ high
  pieces_append : ∀ rest, pieces (front ++ rest) = piecesFrom (.tail low high more bits) rest

section Reading

variable {front : List UInt8} {low high : UInt8} {more bits : Nat}

theorem Reading.isStart (h : Reading front low high more bits) : IsStart front := by
  obtain ⟨tail, c, htail⟩ := exists_piecesFrom_tail low high h.low_le more bits
  obtain ⟨rest, hbytes, hrest⟩ := eq_append_of_piecesFrom_some ((h.pieces_append tail).trans htail)
  rw [eq_nil_of_pieces hrest.symm, List.append_nil] at hbytes
  exact ⟨c, tail, hbytes⟩

/-- Where the byte that is expected does not come, the bytes so far are an ill-formed part. -/
theorem Reading.illFormed (h : Reading front low high more bits) (rest : List UInt8)
    (hrest : ∀ b rest', rest = b :: rest' → ¬(low ≤ b ∧ b ≤ high)) :
    IllFormed front rest ∧ pieces (front ++ rest) = none :: pieces rest := by
  have hmiss {b : UInt8} (hb : ¬(low ≤ b ∧ b ≤ high)) (behind : List UInt8) :
      pieces (front ++ b :: behind) = none :: pieces (b :: behind) := by
    rw [h.pieces_append, piecesFrom_cons, readByte, if_neg hb]
    rfl
  have hpieces : pieces (front ++ rest) = none :: pieces rest := by
    cases rest with
    | nil => exact h.pieces_append []
    | cons b behind => exact hmiss (hrest b behind rfl) behind
  refine ⟨⟨h.ne_nil, ?_, .inl h.isStart, ?_⟩, hpieces⟩
  · rintro c ⟨behind, hbytes⟩
    rw [← hbytes, pieces, piecesFrom_utf8EncodeChar] at hpieces
    cases hpieces
  · rintro p hp ⟨c, behind, hc⟩
    rcases List.prefix_or_prefix_of_prefix hp (List.prefix_append front rest) with hle | ⟨q, rfl⟩
    · exact hle
    · cases q with
      | nil => rw [List.append_nil]
      | cons b q =>
        -- a longer start would go on with the byte that does not fit
        obtain ⟨behind', hbehind⟩ := (List.prefix_append_right_inj front).mp hp
        have hchar := piecesFrom_utf8EncodeChar c []
        rw [List.append_nil, ← hc, List.append_assoc, List.cons_append] at hchar
        have hmissed := hmiss (hrest b _ hbehind.symm) (q ++ behind)
        rw [pieces, hchar] at hmissed
        cases hmissed

/-- **From inside a character** the bytes go on to its end, or to the end of an ill-formed part, by
induction on the bytes. -/
theorem Reading.exists_illFormed (h : Reading front low high more bits) (bytes : List UInt8) :
    (∃ c ps, pieces (front ++ bytes) = some c :: ps) ∨
      ∃ part rest, front ++ bytes = part ++ rest ∧ IllFormed part rest ∧
        pieces (front ++ bytes) = none :: pieces rest := by
  induction bytes generalizing front low high more bits with
  | nil =>
    obtain ⟨hill, hpieces⟩ := h.illFormed [] (by simp)
    exact .inr ⟨front, [], rfl, hill, hpieces⟩
  | cons b bytes ih =>
    by_cases hb : low ≤ b ∧ b ≤ high
    · have hread (rest : List UInt8) : pieces (front ++ [b] ++ rest) =
          (readByte (.tail low high more bits) b).1 ++
            piecesFrom (readByte (.tail low high more bits) b).2 rest := by
        rw [List.append_assoc, List.singleton_append, h.pieces_append, piecesFrom_cons]
      rw [readByte, if_pos hb] at hread
      rw [← List.singleton_append, ← List.append_assoc]
      cases more with
      | zero => exact .inl ⟨_, _, hread bytes⟩
      | succ more =>
        have hreading : Reading (front ++ [b]) 0x80 0xBF more (bits * 64 + (b.toNat - 0x80)) :=
          ⟨List.append_ne_nil_of_left_ne_nil h.ne_nil [b], by decide, hread⟩
        exact ih hreading
    · obtain ⟨hill, hpieces⟩ := h.illFormed (b :: bytes) fun b' rest' heq => by
        rw [← (List.cons.inj heq).1]
        exact hb
      exact .inr ⟨front, b :: bytes, rfl, hill, hpieces⟩

end Reading

/-! ## Cutting -/

/-- The piece in front of any bytes. -/
inductive FirstPiece (bytes : List UInt8) : Prop where
  | nil (h : bytes = [])
  | char (c : Char) (rest : List UInt8) (h : bytes = String.utf8EncodeChar c ++ rest)
      (hpieces : pieces bytes = some c :: pieces rest)
  | illFormed (part rest : List UInt8) (h : bytes = part ++ rest) (hpart : IllFormed part rest)
      (hpieces : pieces bytes = none :: pieces rest)

theorem illFormed_singleton {b : UInt8} (h : readLead b = ([none], .lead)) (rest : List UInt8) :
    IllFormed [b] rest ∧ pieces (b :: rest) = none :: pieces rest := by
  have hpieces (rest : List UInt8) : pieces (b :: rest) = none :: pieces rest := by
    rw [pieces, piecesFrom_cons, readByte, h]
    rfl
  have hno_char (c : Char) (behind : List UInt8) : String.utf8EncodeChar c ≠ b :: behind := by
    intro hc
    have hchar := piecesFrom_utf8EncodeChar c []
    rw [List.append_nil, hc, ← pieces, hpieces] at hchar
    cases hchar
  refine ⟨⟨List.cons_ne_nil b [], ?_, .inr rfl, ?_⟩, hpieces rest⟩
  · rintro c ⟨behind, hbytes⟩
    have hchar := piecesFrom_utf8EncodeChar c behind
    rw [hbytes, List.singleton_append, ← pieces, hpieces] at hchar
    cases hchar
  · rintro p ⟨behind, hp⟩ ⟨c, behind', hc⟩
    cases p with
    | nil => exact List.nil_prefix
    | cons b' p =>
      rw [List.singleton_append, List.cons_append] at hp
      rw [(List.cons.inj hp).1] at hc
      exact absurd hc.symm (hno_char c _)

theorem firstPiece (bytes : List UInt8) : FirstPiece bytes := by
  have hchar {bytes : List UInt8} {c : Char} {ps : List (Option Char)}
      (h : pieces bytes = some c :: ps) : FirstPiece bytes := by
    obtain ⟨rest, hbytes, hps⟩ := eq_append_of_piecesFrom_some h
    exact .char c rest hbytes (by rw [h, hps]; rfl)
  cases bytes with
  | nil => exact .nil rfl
  | cons b bytes =>
    have hread (rest : List UInt8) :
        pieces (b :: rest) = (readLead b).1 ++ piecesFrom (readLead b).2 rest := by
      rw [pieces, piecesFrom_cons, readByte]
    rcases readLead_cases b with ⟨piece, hlead⟩ | ⟨low, high, more, bits, hle, hlead⟩
    · cases piece with
      | some c => exact hchar ((hread bytes).trans (by rw [hlead]; rfl))
      | none =>
        obtain ⟨hpart, hpieces⟩ := illFormed_singleton hlead bytes
        exact .illFormed [b] bytes rfl hpart hpieces
    · have hreading : Reading [b] low high more bits :=
        ⟨List.cons_ne_nil b [], hle, fun rest => (hread rest).trans (by rw [hlead]; rfl)⟩
      rcases hreading.exists_illFormed bytes with ⟨c, ps, h⟩ | ⟨part, rest, h, hpart, hpieces⟩
      · exact hchar h
      · exact .illFormed part rest h hpart hpieces

/-- **The decoder cuts any bytes into characters and maximal ill-formed parts.** -/
theorem cut_pieces (bytes : List UInt8) : Cut bytes (pieces bytes) := by
  induction hlength : bytes.length using Nat.strong_induction_on generalizing bytes with
  | _ n ih =>
    cases firstPiece bytes with
    | nil h =>
      rw [h]
      exact .nil
    | char c rest h hpieces =>
      rw [hpieces, h]
      refine .char c (ih rest.length ?_ rest rfl)
      rw [← hlength, h, List.length_append]
      exact Nat.lt_add_of_pos_left (String.length_utf8EncodeChar c ▸ Char.utf8Size_pos c)
    | illFormed part rest h hpart hpieces =>
      rw [hpieces, h]
      refine .illFormed hpart (ih rest.length ?_ rest rfl)
      rw [← hlength, h, List.length_append]
      exact Nat.lt_add_of_pos_left (List.length_pos_iff.mpr hpart.ne_nil)

theorem IllFormed.eq {part part' rest rest' : List UInt8} (h : IllFormed part rest)
    (h' : IllFormed part' rest') (heq : part ++ rest = part' ++ rest') : part = part' := by
  have hle {part part' rest rest' : List UInt8} (h : IllFormed part rest)
      (h' : IllFormed part' rest') (heq : part ++ rest = part' ++ rest') : part <+: part' := by
    have hprefix : part <+: part' ++ rest' := ⟨rest, heq⟩
    rcases h.start with hstart | hone
    · exact h'.maximal part hprefix hstart
    · refine List.prefix_of_prefix_length_le hprefix (List.prefix_append part' rest') ?_
      rw [hone]
      exact List.length_pos_iff.mpr h'.ne_nil
  exact (hle h h' heq).eq_of_length_le (hle h' h heq.symm).length_le

/-- **There is one way to cut bytes**, by induction on the cut. -/
theorem Cut.unique {bytes : List UInt8} {ps : List (Option Char)} (h : Cut bytes ps) :
    ps = pieces bytes := by
  induction h with
  | nil => rfl
  | char c h ih => rw [pieces, piecesFrom_utf8EncodeChar, ih, pieces]
  | @illFormed part rest ps hpart h ih =>
    cases firstPiece (part ++ rest) with
    | nil h => exact absurd (List.append_eq_nil_iff.mp h).1 hpart.ne_nil
    | char c rest' h => exact absurd ⟨rest', h.symm⟩ (hpart.no_char c)
    | illFormed part' rest' h hpart' hpieces =>
      have heq : part = part' := hpart.eq hpart' h
      rw [heq, List.append_cancel_left_eq] at h
      rw [hpieces, ih, h]

/-! ## The lenient reading -/

/-- The text has the characters of the bytes, and U+FFFD for each maximal ill-formed part. -/
def LossyText (bytes : List UInt8) (text : String) : Prop :=
  ∃ ps, Cut bytes ps ∧ text.toList = ps.map (·.getD '\uFFFD')

theorem lossyText_iff {bytes : List UInt8} {text : String} :
    LossyText bytes text ↔ text = decodeLossy bytes := by
  constructor
  · rintro ⟨ps, hcut, htext⟩
    rw [decodeLossy, ← hcut.unique, ← htext, String.ofList_toList]
  · rintro rfl
    exact ⟨pieces bytes, cut_pieces bytes, String.toList_ofList⟩

theorem decodeLossy_encode (s : String) : decodeLossy (encode s) = s := by
  rw [decodeLossy, pieces_encode, List.map_map]
  exact (congrArg String.ofList (List.map_id s.toList)).trans String.ofList_toList

end LineShell.Text.Utf8
