import LineShell.Text.Lines
import LineShell.Text.Utf8
import Mathlib.Data.List.Basic

/-!
# Reading back the bytes of a text

The bytes of a text are read as that text (`decode?_encode`): the decoder takes them character by
character and finds each of them well-formed (`piecesFrom_utf8EncodeChar`).

1. After the first byte of a character the decoder expects as many further bytes as there are, and
   its bounds on the second one let through what a character has there (`readLead_three`,
   `readLead_four`). This is where overlong forms and surrogates would be refused, which no
   character has.
2. Each further byte adds its six bits (`piecesFrom_tail`), and the last one ends the character with
   the number that was encoded (`piecesFrom_last`).

A byte below 128 encodes a character of that number alone (`toNat_eq_of_mem_utf8EncodeChar`), so a
text without line feeds is a single line of bytes (`byteLines_encode`).
-/

namespace LineShell.Text

namespace Utf8

/-! ## Bytes as numbers -/

section Bytes

variable {n : Nat} (hn : n < 256)

include hn

theorem toNat_byte : (UInt8.ofNat n).toNat = n := by
  rw [UInt8.toNat_ofNat', Nat.mod_eq_of_lt hn]

theorem byte_le_iff (b : UInt8) : UInt8.ofNat n ≤ b ↔ n ≤ b.toNat := by
  rw [UInt8.le_iff_toNat_le, toNat_byte hn]

theorem le_byte_iff (b : UInt8) : b ≤ UInt8.ofNat n ↔ b.toNat ≤ n := by
  rw [UInt8.le_iff_toNat_le, toNat_byte hn]

theorem byte_lt_iff (b : UInt8) : UInt8.ofNat n < b ↔ n < b.toNat := by
  rw [UInt8.lt_iff_toNat_lt, toNat_byte hn]

theorem byte_eq_iff (b : UInt8) : UInt8.ofNat n = b ↔ n = b.toNat := by
  rw [← UInt8.toNat_inj, toNat_byte hn]

end Bytes

/-! ## First bytes -/

theorem readLead_byte {n : Nat} (hn : n < 256) :
    readLead (UInt8.ofNat n) =
      if n ≤ 0x7F then ([some (Char.ofNat n)], .lead)
      else if n < 0xC2 then ([none], .lead)
      else if n ≤ 0xDF then ([], .tail 0x80 0xBF 0 (n - 0xC0))
      else if n = 0xE0 then ([], .tail 0xA0 0xBF 1 0)
      else if n = 0xED then ([], .tail 0x80 0x9F 1 0xD)
      else if n ≤ 0xEF then ([], .tail 0x80 0xBF 1 (n - 0xE0))
      else if n = 0xF0 then ([], .tail 0x90 0xBF 2 0)
      else if n ≤ 0xF3 then ([], .tail 0x80 0xBF 2 (n - 0xF0))
      else if n = 0xF4 then ([], .tail 0x80 0x8F 2 4)
      else ([none], .lead) := by
  simp only [readLead, byte_le_iff hn, byte_lt_iff hn, byte_eq_iff hn, toNat_byte hn]
  rfl

/-- The first of three bytes. The bounds that it sets hold of the second byte of a character `v`. -/
theorem readLead_three {v : Nat} (hlow : 0x800 ≤ v) (hhigh : v < 0x10000)
    (hsurrogate : v < 0xD800 ∨ 0xDFFF < v) :
    ∃ low high : UInt8,
      readLead (UInt8.ofNat (v / 4096 % 16 + 224)) = ([], .tail low high 1 (v / 4096)) ∧
        low.toNat ≤ v / 64 % 64 + 128 ∧ v / 64 % 64 + 128 ≤ high.toNat := by
  rw [readLead_byte (by omega)]
  by_cases he0 : v / 4096 = 0
  · refine ⟨0xA0, 0xBF, by simp [he0], ?_⟩
    show 160 ≤ _ ∧ _ ≤ 191
    omega
  · by_cases hed : v / 4096 = 13
    · refine ⟨0x80, 0x9F, by simp [hed], ?_⟩
      show 128 ≤ _ ∧ _ ≤ 159
      omega
    · refine ⟨0x80, 0xBF, ?_, ?_⟩
      · have hbits : v / 4096 % 16 + 224 - 0xE0 = v / 4096 := by omega
        rw [if_neg (by omega), if_neg (by omega), if_neg (by omega), if_neg (by omega),
          if_neg (by omega), if_pos (by omega), hbits]
      · show 128 ≤ _ ∧ _ ≤ 191
        omega

theorem readLead_four {v : Nat} (hlow : 0x10000 ≤ v) (hhigh : v < 0x110000) :
    ∃ low high : UInt8,
      readLead (UInt8.ofNat (v / 262144 % 8 + 240)) = ([], .tail low high 2 (v / 262144)) ∧
        low.toNat ≤ v / 4096 % 64 + 128 ∧ v / 4096 % 64 + 128 ≤ high.toNat := by
  rw [readLead_byte (by omega)]
  by_cases hf0 : v / 262144 = 0
  · refine ⟨0x90, 0xBF, by simp [hf0], ?_⟩
    show 144 ≤ _ ∧ _ ≤ 191
    omega
  · by_cases hf4 : v / 262144 = 4
    · refine ⟨0x80, 0x8F, by simp [hf4], ?_⟩
      show 128 ≤ _ ∧ _ ≤ 143
      omega
    · refine ⟨0x80, 0xBF, ?_, ?_⟩
      · have hbits : v / 262144 % 8 + 240 - 0xF0 = v / 262144 := by omega
        rw [if_neg (by omega), if_neg (by omega), if_neg (by omega), if_neg (by omega),
          if_neg (by omega), if_neg (by omega), if_neg (by omega), if_pos (by omega), hbits]
      · show 128 ≤ _ ∧ _ ≤ 191
        omega

/-! ## One character -/

theorem piecesFrom_cons (expect : Expect) (b : UInt8) (bs : List UInt8) :
    piecesFrom expect (b :: bs) =
      (readByte expect b).1 ++ piecesFrom (readByte expect b).2 bs := by
  cases expect <;> rfl

section Tail

variable {low high : UInt8} {n : Nat} (hlow : low.toNat ≤ n % 64 + 128)
  (hhigh : n % 64 + 128 ≤ high.toNat) (bits : Nat) (rest : List UInt8)

include hlow hhigh

theorem piecesFrom_tail (more : Nat) :
    piecesFrom (.tail low high (more + 1) bits) (UInt8.ofNat (n % 64 + 128) :: rest) =
      piecesFrom (.tail 0x80 0xBF more (bits * 64 + n % 64)) rest := by
  have hn : n % 64 + 128 < 256 := by omega
  have hbounds : low ≤ UInt8.ofNat (n % 64 + 128) ∧ UInt8.ofNat (n % 64 + 128) ≤ high :=
    ⟨(le_byte_iff hn low).mpr hlow, (byte_le_iff hn high).mpr hhigh⟩
  simp only [piecesFrom_cons, readByte, if_pos hbounds, toNat_byte hn, Nat.add_sub_cancel,
    List.nil_append]

theorem piecesFrom_last :
    piecesFrom (.tail low high 0 bits) (UInt8.ofNat (n % 64 + 128) :: rest) =
      some (Char.ofNat (bits * 64 + n % 64)) :: piecesFrom .lead rest := by
  have hn : n % 64 + 128 < 256 := by omega
  have hbounds : low ≤ UInt8.ofNat (n % 64 + 128) ∧ UInt8.ofNat (n % 64 + 128) ≤ high :=
    ⟨(le_byte_iff hn low).mpr hlow, (byte_le_iff hn high).mpr hhigh⟩
  simp only [piecesFrom_cons, readByte, if_pos hbounds, toNat_byte hn, Nat.add_sub_cancel,
    List.singleton_append]

end Tail

theorem tail_bounds (n : Nat) :
    (0x80 : UInt8).toNat ≤ n % 64 + 128 ∧ n % 64 + 128 ≤ (0xBF : UInt8).toNat := by
  show 128 ≤ n % 64 + 128 ∧ n % 64 + 128 ≤ 191
  omega

/-- The bytes of a character, by its number: one, two, three or four. -/
theorem utf8EncodeChar_cases (c : Char) :
    c.toNat < 0x80 ∧ String.utf8EncodeChar c = [UInt8.ofNat c.toNat] ∨
    0x80 ≤ c.toNat ∧ c.toNat < 0x800 ∧ String.utf8EncodeChar c =
      [UInt8.ofNat (c.toNat / 64 % 32 + 192), UInt8.ofNat (c.toNat % 64 + 128)] ∨
    0x800 ≤ c.toNat ∧ c.toNat < 0x10000 ∧ (c.toNat < 0xD800 ∨ 0xDFFF < c.toNat) ∧
      String.utf8EncodeChar c =
        [UInt8.ofNat (c.toNat / 4096 % 16 + 224), UInt8.ofNat (c.toNat / 64 % 64 + 128),
          UInt8.ofNat (c.toNat % 64 + 128)] ∨
    0x10000 ≤ c.toNat ∧ c.toNat < 0x110000 ∧ String.utf8EncodeChar c =
      [UInt8.ofNat (c.toNat / 262144 % 8 + 240), UInt8.ofNat (c.toNat / 4096 % 64 + 128),
        UInt8.ofNat (c.toNat / 64 % 64 + 128), UInt8.ofNat (c.toNat % 64 + 128)] := by
  have hvalid : c.toNat < 0xD800 ∨ 0xDFFF < c.toNat ∧ c.toNat < 0x110000 := c.valid
  have hval : c.val.toNat = c.toNat := rfl
  simp only [String.utf8EncodeChar, hval]
  split_ifs with h1 h2 h3
  · exact .inl ⟨by omega, rfl⟩
  · exact .inr (.inl ⟨by omega, by omega, rfl⟩)
  · exact .inr (.inr (.inl ⟨by omega, by omega, by omega, rfl⟩))
  · exact .inr (.inr (.inr ⟨by omega, by omega, rfl⟩))

/-- **The bytes of a character are read as that character**, whatever follows them. -/
theorem piecesFrom_utf8EncodeChar (c : Char) (rest : List UInt8) :
    piecesFrom .lead (String.utf8EncodeChar c ++ rest) = some c :: piecesFrom .lead rest := by
  have hread {v : Nat} (hv : v = c.toNat) : some (Char.ofNat v) = some c := by
    rw [hv, Char.ofNat_toNat]
  obtain ⟨hlast, hlast'⟩ := tail_bounds c.toNat
  rcases utf8EncodeChar_cases c with
    ⟨h, hbytes⟩ | ⟨h, h', hbytes⟩ | ⟨h, h', hsurrogate, hbytes⟩ | ⟨h, h', hbytes⟩
  · rw [hbytes, List.singleton_append, piecesFrom_cons, readByte, readLead_byte (by omega),
      if_pos (by omega), hread rfl]
    rfl
  · have hbits : c.toNat / 64 % 32 + 192 - 0xC0 = c.toNat / 64 := by omega
    have hlead : readLead (UInt8.ofNat (c.toNat / 64 % 32 + 192)) =
        ([], .tail 0x80 0xBF 0 (c.toNat / 64)) := by
      rw [readLead_byte (by omega), if_neg (by omega), if_neg (by omega), if_pos (by omega), hbits]
    rw [hbytes, List.cons_append, piecesFrom_cons, readByte, hlead, List.nil_append,
      List.singleton_append, piecesFrom_last hlast hlast', hread (by omega)]
  · obtain ⟨low, high, hlead, hlow, hhigh⟩ := readLead_three h h' hsurrogate
    rw [hbytes, List.cons_append, piecesFrom_cons, readByte, hlead, List.nil_append,
      List.cons_append, piecesFrom_tail hlow hhigh, List.singleton_append,
      piecesFrom_last hlast hlast', hread (by omega)]
  · obtain ⟨low, high, hlead, hlow, hhigh⟩ := readLead_four h h'
    obtain ⟨hthird, hthird'⟩ := tail_bounds (c.toNat / 64)
    rw [hbytes, List.cons_append, piecesFrom_cons, readByte, hlead, List.nil_append,
      List.cons_append, piecesFrom_tail hlow hhigh, List.cons_append,
      piecesFrom_tail hthird hthird', List.singleton_append, piecesFrom_last hlast hlast',
      hread (by omega)]

/-! ## Whole texts -/

theorem pieces_encode (s : String) : pieces (encode s) = s.toList.map some := by
  rw [pieces, encode]
  induction s.toList with
  | nil => rfl
  | cons c cs ih => rw [List.flatMap_cons, piecesFrom_utf8EncodeChar, ih, List.map_cons]

theorem wellFormed?_map_some (cs : List Char) : wellFormed? (cs.map some) = some cs := by
  induction cs with
  | nil => rfl
  | cons c cs ih =>
    rw [List.map_cons, wellFormed?, ih]
    rfl

theorem decode?_encode (s : String) : decode? (encode s) = some s := by
  rw [decode?, pieces_encode, wellFormed?_map_some, Option.map_some, String.ofList_toList]

/-! ## Bytes below 128 -/

theorem toNat_eq_of_mem_utf8EncodeChar {c : Char} {b : UInt8} (hb : b.toNat < 128)
    (h : b ∈ String.utf8EncodeChar c) : c.toNat = b.toNat := by
  have hbyte {n : Nat} (hn : n < 256) (heq : b = UInt8.ofNat n) : b.toNat = n := by
    rw [heq, toNat_byte hn]
  -- in a character of several bytes, each has 128 or more added to it
  rcases utf8EncodeChar_cases c with
    ⟨hc, hbytes⟩ | ⟨-, -, hbytes⟩ | ⟨-, -, -, hbytes⟩ | ⟨-, -, hbytes⟩ <;>
    simp only [hbytes, List.mem_cons, List.not_mem_nil, or_false] at h
  · exact (hbyte (by omega) h).symm
  · rcases h with h | h <;> have hn := hbyte (by omega) h <;> omega
  · rcases h with h | h | h <;> have hn := hbyte (by omega) h <;> omega
  · rcases h with h | h | h | h <;> have hn := hbyte (by omega) h <;> omega

end Utf8

/-! ## A single line -/

theorem linesFrom_of_not_mem {α : Type} [DecidableEq α] {lf cr : α} {held xs : List α}
    (h : lf ∉ xs) :
    linesFrom lf cr held xs = if held.reverse ++ xs = [] then [] else [held.reverse ++ xs] := by
  induction xs generalizing held with
  | nil => simp [linesFrom]
  | cons x xs ih =>
    have hx : x ≠ lf := fun hx => h (by rw [hx]; exact List.mem_cons_self)
    rw [linesFrom, if_neg hx, ih fun hxs => h (List.mem_cons_of_mem x hxs), List.reverse_cons,
      List.append_assoc, List.singleton_append]

theorem byteLines_encode {s : String} (h : '\n' ∉ s.toList) :
    byteLines (Utf8.encode s) = if s = "" then [] else [Utf8.encode s] := by
  have hlf : (10 : UInt8) ∉ Utf8.encode s := by
    intro hmem
    obtain ⟨c, hc, hb⟩ := List.mem_flatMap.mp hmem
    have hnat : c.toNat = 10 := Utf8.toNat_eq_of_mem_utf8EncodeChar (b := 10) (by decide) hb
    have hchar : c = '\n' := by rw [← Char.ofNat_toNat c, hnat]
    exact h (hchar ▸ hc)
  have hempty : Utf8.encode s = [] ↔ s = "" := by
    constructor
    · intro hnil
      have hdecode := Utf8.decode?_encode s
      rw [hnil] at hdecode
      exact (Option.some.inj hdecode).symm
    · rintro rfl
      rfl
  rw [byteLines, linesFrom_of_not_mem hlf]
  simp only [List.reverse_nil, List.nil_append, hempty]

end LineShell.Text
