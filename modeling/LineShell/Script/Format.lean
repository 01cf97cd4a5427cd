import LineShell.Text.Utf8

/-!
Backslash escapes and formats, as `echo` and `printf` write them.
-/

namespace LineShell.Script

/-- The bytes of one character. -/
def charBytes (c : Char) : List UInt8 := String.utf8EncodeChar c

def isOctal (c : Char) : Bool := '0' ≤ c && c ≤ '7'

/-- The byte that up to three octal digits write, and the characters after them. -/
def octalByte (cs : List Char) : UInt8 × List Char :=
  let digits := (cs.take 3).takeWhile isOctal
  let n := digits.foldl (fun n c => n * 8 + (c.toNat - '0'.toNat)) 0
  (n.toUInt8, cs.drop digits.length)

/-- The character of an escape with one letter. -/
def letterEscape? : Char → Option UInt8
  | 'a' => some 7
  | 'b' => some 8
  | 't' => some 9
  | 'n' => some 10
  | 'v' => some 11
  | 'f' => some 12
  | 'r' => some 13
  | '\\' => some 92
  | _ => none

/-- Reads what follows a backslash. A backslash without a meaning stands for itself. -/
def readEscape : List Char → List UInt8 × List Char
  | [] => ([92], [])
  | c :: cs =>
    if isOctal c then
      let (byte, rest) := octalByte (c :: cs)
      ([byte], rest)
    else
      match letterEscape? c with
      | some byte => ([byte], cs)
      | none => ([92], c :: cs)

/-- The bytes of a text with escapes, and whether `\c` ended the output. An octal escape may have a
zero in front. -/
def expandEscapes : Nat → List Char → List UInt8 × Bool
  | 0, _ => ([], false)
  | _ + 1, [] => ([], false)
  | n + 1, '\\' :: cs =>
    match cs with
    | 'c' :: _ => ([], true)
    | _ =>
      let digits := match cs with
        | '0' :: d :: ds => if isOctal d then d :: ds else cs
        | _ => cs
      let (bytes, rest) := readEscape digits
      let (more, ended) := expandEscapes n rest
      (bytes ++ more, ended)
  | n + 1, c :: cs =>
    let (more, ended) := expandEscapes n cs
    (charBytes c ++ more, ended)

/-- What `echo` writes. -/
def echoBytes (args : List String) : List UInt8 :=
  let (newline, args) := match args with
    | "-n" :: args => (false, args)
    | args => (true, args)
  let cs := (" ".intercalate args).toList
  let (bytes, ended) := expandEscapes (cs.length + 1) cs
  if newline && !ended then bytes ++ [10] else bytes

/-- The layout of one conversion of a format. -/
structure Conversion where
  leftAlign : Bool := false
  zeros : Bool := false
  plus : Bool := false
  width : Nat := 0
  precision : Option Nat := none
  letter : Char
  deriving Repr

/-- Reads digits as a number. -/
def readNat (cs : List Char) : Nat × List Char :=
  let (digits, rest) := cs.span Char.isDigit
  (digits.foldl (fun n c => n * 10 + (c.toNat - '0'.toNat)) 0, rest)

/-- Reads what follows a percent sign. -/
def readConversion (cs : List Char) : Option (Conversion × List Char) :=
  let (flags, cs) := cs.span "-0+ #".toList.contains
  let (width, cs) := readNat cs
  let (precision, cs) := match cs with
    | '.' :: cs =>
      let (n, cs) := readNat cs
      (some n, cs)
    | cs => (none, cs)
  match cs with
  | [] => none
  | letter :: cs =>
    some ({ leftAlign := flags.contains '-', zeros := flags.contains '0'
            plus := flags.contains '+', width, precision, letter }, cs)

/-- Fills bytes up to the width of a conversion. -/
def Conversion.pad (c : Conversion) (bytes : List UInt8) : List UInt8 :=
  let fill := List.replicate (c.width - bytes.length) 32
  if c.leftAlign then bytes ++ fill else fill ++ bytes

/-- An integer as an argument of a format; what cannot be read counts as zero. -/
def readInt (s : String) : Int :=
  match s.toList with
  | '-' :: cs => -(readNat cs).1
  | '+' :: cs => (readNat cs).1
  | cs => (readNat cs).1

/-- Digits of a number in a base. -/
def digitsOf (base n : Nat) : List UInt8 := (Nat.toDigits base n).flatMap charBytes

/-- A number as a conversion writes it. -/
def Conversion.number (c : Conversion) (base : Nat) (n : Int) : List UInt8 :=
  let sign := if n < 0 then [45] else if c.plus then [43] else []
  let digits := digitsOf base n.natAbs
  let least := c.precision.getD (if c.zeros && !c.leftAlign then c.width - sign.length else 0)
  c.pad (sign ++ List.replicate (least - digits.length) 48 ++ digits)

/-- What a conversion makes of an argument, and whether `\c` ended the output. -/
def Conversion.apply (c : Conversion) (arg : String) : Option (List UInt8 × Bool) :=
  let cut (bytes : List UInt8) : List UInt8 := bytes.take (c.precision.getD bytes.length)
  match c.letter with
  | 's' => some (c.pad (cut (Text.Utf8.encode arg)), false)
  | 'b' =>
    let cs := arg.toList
    let (bytes, ended) := expandEscapes (cs.length + 1) cs
    some (c.pad (cut bytes), ended)
  | 'c' => some (c.pad ((Text.Utf8.encode arg).take 1), false)
  | 'd' | 'i' | 'u' => some (c.number 10 (readInt arg), false)
  | 'o' => some (c.number 8 (readInt arg), false)
  | 'x' => some (c.number 16 (readInt arg), false)
  | _ => none

/-- One pass through a format: the bytes, the arguments left over, and whether the output has
ended. -/
def formatOnce : Nat → List Char → List String → List UInt8 × List String × Bool
  | 0, _, args => ([], args, true)
  | _ + 1, [], args => ([], args, false)
  | n + 1, '%' :: '%' :: cs, args =>
    let (more, args, ended) := formatOnce n cs args
    (37 :: more, args, ended)
  | n + 1, '%' :: cs, args =>
    match readConversion cs with
    | none => ([], args, true)
    | some (c, cs) =>
      match c.apply (args.head?.getD "") with
      | none => ([], args, true)
      | some (bytes, true) => (bytes, args, true)
      | some (bytes, false) =>
        let (more, args, ended) := formatOnce n cs args.tail
        (bytes ++ more, args, ended)
  | n + 1, '\\' :: cs, args =>
    let (bytes, cs) := readEscape cs
    let (more, args, ended) := formatOnce n cs args
    (bytes ++ more, args, ended)
  | n + 1, c :: cs, args =>
    let (more, args, ended) := formatOnce n cs args
    (charBytes c ++ more, args, ended)

/-- What `printf` writes. The format is used again as long as arguments are left and it takes
some. -/
def formatAll : Nat → List Char → List String → List UInt8
  | 0, _, _ => []
  | n + 1, format, args =>
    let (bytes, rest, ended) := formatOnce (format.length + 1) format args
    if ended || rest.isEmpty || rest.length = args.length then bytes
    else bytes ++ formatAll n format rest

def printfBytes (format : String) (args : List String) : List UInt8 :=
  formatAll (args.length + 1) format.toList args

end LineShell.Script
