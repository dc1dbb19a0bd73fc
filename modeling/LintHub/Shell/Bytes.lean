import LintHub.Text.Utf8

set_option autoImplicit false

/-!
# Bytes

The values of a shell are bytes, since the output of a program need not be text. Here is what nearly
every command needs of them: characters, numbers and escapes.
-/

namespace LintHub.Shell

/-- A sequence of bytes: an argument, a value or a stream. -/
abbrev Bytes := List UInt8

/-- The byte of an ASCII character. -/
def byteOf (c : Char) : UInt8 := c.toNat.toUInt8

/-- The character of a byte, where it is ASCII. -/
def charOf (b : UInt8) : Char := Char.ofNat b.toNat

/-- The bytes of a text. -/
def bytesOf (s : String) : Bytes := Text.bytes s

/-- The text of bytes. -/
def textOf (bs : Bytes) : String := Text.decodeLossy bs

/-- The arguments with a blank between each two of them. -/
def joined (args : List Bytes) : Bytes := [(32 : UInt8)].intercalate args

/-- The bytes up to the first one of a kind, and what stands behind that one, if there is one. -/
def splitAtByte (p : UInt8 → Bool) (bs : Bytes) : Bytes × Option Bytes :=
  (bs.takeWhile (!p ·),
    match bs.dropWhile (!p ·) with
    | [] => none
    | _ :: rest => some rest)

/-! ## Numbers -/

/-- A byte that may stand in front of a number. -/
def isSpaceByte (b : UInt8) : Bool := b == 32 || (9 ≤ b && b ≤ 13)

/-- The value of a digit in base 16. -/
def hexValue? (c : Char) : Option Nat :=
  if c.isDigit then some (c.toNat - 48)
  else if 'a' ≤ c && c ≤ 'f' then some (c.toNat - 87)
  else if 'A' ≤ c && c ≤ 'F' then some (c.toNat - 55)
  else none

/-- The digits of a base at the start of a text, and what follows them. -/
def takeDigits (base : Nat) (cs : List Char) : List Nat × List Char :=
  let isDigit (c : Char) : Bool := (hexValue? c).any (· < base)
  ((cs.takeWhile isDigit).filterMap hexValue?, cs.dropWhile isDigit)

/-- The number that digits make. -/
def digitsNumber (base : Nat) (ds : List Nat) : Nat := ds.foldl (fun n d => n * base + d) 0

/-- The natural number at the start of a text and what follows. A leading `0x` asks for base 16, any
other leading zero for base 8. -/
def takeNatural? (cs : List Char) : Option (Nat × List Char) :=
  let number (base : Nat) (cs : List Char) : Option (Nat × List Char) :=
    match takeDigits base cs with
    | ([], _) => none
    | (ds, rest) => some (digitsNumber base ds, rest)
  match cs with
  | '0' :: x :: rest =>
    if x == 'x' || x == 'X' then (number 16 rest).or (some (0, x :: rest))
    else number 8 cs
  | cs => number 10 cs

/-- The integer at the start of a text, blanks in front of it left out, and what follows. -/
def takeInteger? (cs : List Char) : Option (Int × List Char) :=
  match cs.dropWhile fun c => isSpaceByte (byteOf c) with
  | '-' :: rest => (takeNatural? rest).map fun x => (Int.neg x.1, x.2)
  | '+' :: rest => (takeNatural? rest).map fun x => ((x.1 : Int), x.2)
  | rest => (takeNatural? rest).map fun x => ((x.1 : Int), x.2)

/-- The natural number that decimal digits write. -/
def natural? (bs : Bytes) : Option Nat :=
  if bs.isEmpty then none
  else bs.foldlM (fun n b => if 48 ≤ b && b ≤ 57 then some (n * 10 + (b.toNat - 48)) else none) 0

/-- The integer of 64 bits that an argument writes in base 10, with blanks around it. -/
def integer? (bs : Bytes) : Option Int :=
  let (negative, digits) := match (bs.dropWhile isSpaceByte).map charOf with
    | '-' :: rest => (true, rest)
    | '+' :: rest => (false, rest)
    | rest => (false, rest)
  let (ds, rest) := takeDigits 10 digits
  let n := digitsNumber 10 ds
  let bound := Nat.pow 2 63 + (if negative then 1 else 0)
  if ds.isEmpty || bound ≤ n || !rest.all (fun c => isSpaceByte (byteOf c)) then none
  else some (if negative then Int.neg n else n)

/-- The bytes of a number. -/
def numberBytes (n : Int) : Bytes := bytesOf (toString n)

/-! ## Escapes -/

/-- The value of octal digits. -/
def octalValue (ds : Bytes) : Nat := ds.foldl (fun n d => n * 8 + (d.toNat - 48)) 0

/-- An octal digit. -/
def isOctal (b : UInt8) : Bool := 48 ≤ b && b ≤ 55

/-- The byte that a backslash and a letter mean. -/
def namedEscape? (b : UInt8) : Option UInt8 :=
  match charOf b with
  | '\\' => some 92
  | 'a' => some 7
  | 'b' => some 8
  | 'f' => some 12
  | 'n' => some 10
  | 'r' => some 13
  | 't' => some 9
  | 'v' => some 11
  | _ => none

/-- The bytes of an escape whose backslash was read, and what follows it. An escape that means
nothing stays as it is. -/
def escape : Bytes → Bytes × Bytes
  | [] => ([92], [])
  | b :: rest =>
    if isOctal b then
      let ds := ((b :: rest).take 3).takeWhile isOctal
      ([(octalValue ds).toUInt8], (b :: rest).drop ds.length)
    else if b == 101 then ([27], rest)
    else
      match namedEscape? b with
      | some c => ([c], rest)
      | none => ([92], b :: rest)

/-- The bytes with escapes replaced, and whether an escape asked to stop there. An octal escape may
have a zero in front of its three digits. -/
def unescape : Nat → Bytes → Bytes × Bool
  | 0, _ => ([], false)
  | _ + 1, [] => ([], false)
  | _ + 1, 92 :: 99 :: _ => ([], true)
  | fuel + 1, 92 :: 48 :: rest =>
    let rest := if isOctal (rest.headD 0) then rest else 48 :: rest
    let (out, rest) := escape rest
    let (more, stop) := unescape fuel rest
    (out ++ more, stop)
  | fuel + 1, 92 :: rest =>
    let (out, rest) := escape rest
    let (more, stop) := unescape fuel rest
    (out ++ more, stop)
  | fuel + 1, b :: rest =>
    let (more, stop) := unescape fuel rest
    (b :: more, stop)

end LintHub.Shell
