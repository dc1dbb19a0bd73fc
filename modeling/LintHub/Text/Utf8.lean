set_option autoImplicit false

/-!
# UTF-8 with mistakes replaced

Reading bytes as UTF-8 where each maximal piece that starts a character but does not finish it,
and each byte that starts none, becomes one replacement character. The bytes of a text are what
writing it gives.
-/

namespace LintHub.Text

/-- The character that stands for bytes that are no text. -/
def replacement : Char := '\uFFFD'

/-- How many bytes follow the first one, and the range the second must lie in; nothing for a byte
that starts no character of several bytes. -/
def sequenceShape (b : UInt8) : Option (Nat × UInt8 × UInt8) :=
  if 0xC2 ≤ b && b ≤ 0xDF then some (1, 0x80, 0xBF)
  else if b == 0xE0 then some (2, 0xA0, 0xBF)
  else if 0xE1 ≤ b && b ≤ 0xEC then some (2, 0x80, 0xBF)
  else if b == 0xED then some (2, 0x80, 0x9F)
  else if 0xEE ≤ b && b ≤ 0xEF then some (2, 0x80, 0xBF)
  else if b == 0xF0 then some (3, 0x90, 0xBF)
  else if 0xF1 ≤ b && b ≤ 0xF3 then some (3, 0x80, 0xBF)
  else if b == 0xF4 then some (3, 0x80, 0x8F)
  else none

/-- The continuation bytes at the start of a list, at most `n` of them, the first within the given
range. -/
def takeContinuations (n : Nat) (low high : UInt8) (bs : List UInt8) : List UInt8 :=
  match n, bs with
  | n + 1, b :: rest =>
    if low ≤ b && b ≤ high then b :: takeContinuations n 0x80 0xBF rest else []
  | _, _ => []

/-- The code point of a first byte and its continuation bytes. -/
def codePoint (first : UInt8) (tail : List UInt8) : Nat :=
  let lead := match tail.length with
    | 1 => first.toNat % 0x20
    | 2 => first.toNat % 0x10
    | _ => first.toNat % 0x08
  tail.foldl (fun n b => n * 0x40 + b.toNat % 0x40) lead

/-- Reads bytes as characters; `fuel` bounds the number of characters read. -/
def decodeLossyFrom (fuel : Nat) (bs : List UInt8) : List Char :=
  match fuel, bs with
  | 0, _ => []
  | _, [] => []
  | fuel + 1, b :: rest =>
    if b < 0x80 then
      Char.ofNat b.toNat :: decodeLossyFrom fuel rest
    else
      match sequenceShape b with
      | none => replacement :: decodeLossyFrom fuel rest
      | some (n, low, high) =>
        let tail := takeContinuations n low high rest
        let c := if tail.length == n then Char.ofNat (codePoint b tail) else replacement
        c :: decodeLossyFrom fuel (rest.drop tail.length)

/-- The text that bytes stand for, mistakes replaced. -/
def decodeLossy (bs : List UInt8) : String :=
  String.ofList (decodeLossyFrom bs.length bs)

/-- The bytes of a text. -/
def bytes (s : String) : List UInt8 :=
  s.toUTF8.data.toList

theorem bytes_inj {s t : String} : bytes s = bytes t ↔ s = t := by
  unfold bytes
  rw [Array.toList_inj]
  constructor
  · intro h
    exact String.toByteArray_inj.1 (congrArg ByteArray.mk h)
  · rintro rfl
    rfl

/-- Every byte sequence in the list is complete text. -/
def isUtf8 (bs : List UInt8) : Bool :=
  (bytes (decodeLossy bs)) == bs

end LintHub.Text
