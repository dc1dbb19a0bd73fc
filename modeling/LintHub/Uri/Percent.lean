import LintHub.Text.Utf8

set_option autoImplicit false

/-!
# Percent encoding

Characters that would be misread at their place in a URI are written as their bytes, each as two
hexadecimal digits behind a percent sign. Which characters these are depends on the place. Main
statement: a text is left as it is where no character of it is in the set (`encode_eq_self`).
-/

namespace LintHub.Uri

/-- A control or a character beyond ASCII. -/
def isControlOrForeign (c : Char) : Bool := c.toNat < 0x20 || 0x7E < c.toNat

/-- The characters that are encoded in a fragment. -/
def fragmentSet (c : Char) : Bool :=
  isControlOrForeign c || [' ', '"', '<', '>', '\x60'].contains c

/-- The characters that are encoded in a path. -/
def pathSet (c : Char) : Bool := fragmentSet c || ['#', '?', '\x7b', '\x7d'].contains c

/-- The characters that are encoded in the name of a file. -/
def nameSet (c : Char) : Bool := pathSet c || ['/', '%', '\\'].contains c

/-- The characters that are encoded in the name of a user. -/
def userSet (c : Char) : Bool :=
  pathSet c || ['/', ':', ';', '=', '@', '[', '\\', ']', '^', '|'].contains c

/-- The characters that are encoded in a query, the single quote only under a special scheme. -/
def querySet (special : Bool) (c : Char) : Bool :=
  isControlOrForeign c || [' ', '"', '#', '<', '>'].contains c || (special && c == '\x27')

/-- Two upper-case hexadecimal digits of a byte behind a percent sign. -/
def encodeByte (b : UInt8) : List Char :=
  let digit (n : Nat) : Char := ((Nat.toDigits 16 n).headD '0').toUpper
  ['%', digit (b.toNat / 16), digit (b.toNat % 16)]

/-- A character, encoded if it is in a set. -/
def encodeChar (set : Char → Bool) (c : Char) : List Char :=
  if set c then (Text.bytes c.toString).flatMap encodeByte else [c]

/-- A text with the characters of a set encoded. -/
def encode (set : Char → Bool) (cs : List Char) : List Char := cs.flatMap (encodeChar set)

theorem encode_eq_self {set : Char → Bool} {cs : List Char} (h : ∀ c ∈ cs, set c = false) :
    encode set cs = cs := by
  induction cs with
  | nil => rfl
  | cons c rest ih =>
    have hc : encodeChar set c = [c] := by simp [encodeChar, h c (by simp)]
    have ht : encode set rest = rest := ih fun d hd => h d (by simp [hd])
    simp only [encode, List.flatMap_cons, hc] at *
    simp [ht]

/-- The character that a byte is in ASCII; a byte beyond it gives a character beyond it. -/
def charOfByte (b : UInt8) : Char := Char.ofNat b.toNat

/-- Bytes as text, those that stand for characters of a set encoded. -/
def encodeBytes (set : Char → Bool) (bs : List UInt8) : List Char :=
  bs.flatMap fun b => if set (charOfByte b) then encodeByte b else [charOfByte b]

/-- The value of a hexadecimal digit. -/
def digitValue (c : Char) : Option Nat :=
  if c.isDigit then some (c.toNat - 48)
  else if 'a' ≤ c && c ≤ 'f' then some (c.toNat - 87)
  else if 'A' ≤ c && c ≤ 'F' then some (c.toNat - 55)
  else none

/-- The bytes of a text whose percent signs are decoded; one without two digits stays. -/
def decodeBytes : List Char → List UInt8
  | '%' :: a :: b :: rest =>
    match digitValue a, digitValue b with
    | some m, some n => (m * 16 + n).toUInt8 :: decodeBytes rest
    | _, _ => 37 :: decodeBytes (a :: b :: rest)
  | c :: rest => Text.bytes c.toString ++ decodeBytes rest
  | [] => []

/-- The text of which another is the encoded form. -/
def decode (cs : List Char) : List Char := (Text.decodeLossy (decodeBytes cs)).toList

end LintHub.Uri
