/-!
Decoding of UTF-8. A sequence of bytes is cut into pieces, each either a well-formed character or a
maximal ill-formed part: the longest start of some well-formed character that the bytes hold there,
or one byte if there is none. The strict reading accepts only well-formed characters, the lenient
one puts U+FFFD in place of every other piece.
-/

namespace LineShell.Text.Utf8

/-- The bytes of a text. -/
def encode (s : String) : List UInt8 := s.toList.flatMap String.utf8EncodeChar

/-- Where the decoder stands between two bytes. -/
inductive Expect where
  /-- Between characters. -/
  | lead
  /-- Inside a character: one byte from `low` to `high` comes next, then `more` further tail bytes,
  and `bits` is the number that the bytes so far carry. -/
  | tail (low high : UInt8) (more : Nat) (bits : Nat)
  deriving DecidableEq, Repr

/-- Reads the first byte of a character. The bounds on the second byte rule out overlong forms,
surrogates and numbers above U+10FFFF. -/
def readLead (b : UInt8) : List (Option Char) × Expect :=
  if b ≤ 0x7F then ([some (Char.ofNat b.toNat)], .lead)
  else if b < 0xC2 then ([none], .lead)
  else if b ≤ 0xDF then ([], .tail 0x80 0xBF 0 (b.toNat - 0xC0))
  else if b = 0xE0 then ([], .tail 0xA0 0xBF 1 0)
  else if b = 0xED then ([], .tail 0x80 0x9F 1 0xD)
  else if b ≤ 0xEF then ([], .tail 0x80 0xBF 1 (b.toNat - 0xE0))
  else if b = 0xF0 then ([], .tail 0x90 0xBF 2 0)
  else if b ≤ 0xF3 then ([], .tail 0x80 0xBF 2 (b.toNat - 0xF0))
  else if b = 0xF4 then ([], .tail 0x80 0x8F 2 4)
  else ([none], .lead)

/-- Reads one byte: the pieces that it completes, and what is expected after it. A byte that does
not fit ends an ill-formed piece and is read again as a first byte. -/
def readByte : Expect → UInt8 → List (Option Char) × Expect
  | .lead, b => readLead b
  | .tail low high more bits, b =>
    if low ≤ b ∧ b ≤ high then
      let bits := bits * 64 + (b.toNat - 0x80)
      match more with
      | 0 => ([some (Char.ofNat bits)], .lead)
      | more + 1 => ([], .tail 0x80 0xBF more bits)
    else
      let (after, expect) := readLead b
      (none :: after, expect)

/-- The pieces of a sequence of bytes, `none` for an ill-formed one. -/
def piecesFrom : Expect → List UInt8 → List (Option Char)
  | .lead, [] => []
  | .tail .., [] => [none]
  | expect, b :: bs =>
    let (done, expect) := readByte expect b
    done ++ piecesFrom expect bs

def pieces (bytes : List UInt8) : List (Option Char) := piecesFrom .lead bytes

/-- All characters of the pieces, if every piece is well-formed. -/
def wellFormed? : List (Option Char) → Option (List Char)
  | [] => some []
  | none :: _ => none
  | some c :: rest => (wellFormed? rest).map (c :: ·)

/-- The text that well-formed bytes encode. -/
def decode? (bytes : List UInt8) : Option String :=
  (wellFormed? (pieces bytes)).map String.ofList

/-- The text of any bytes, with U+FFFD for every ill-formed piece. -/
def decodeLossy (bytes : List UInt8) : String :=
  String.ofList ((pieces bytes).map (·.getD '\uFFFD'))

end LineShell.Text.Utf8
