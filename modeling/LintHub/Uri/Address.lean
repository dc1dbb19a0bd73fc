import LintHub.Uri.Percent

set_option autoImplicit false

/-!
# Addresses of machines

A machine may be named by a number of 32 bits or by one of 128 bits. The first is written in up to
four parts, each in base 8, 10 or 16, of which the last one fills all bytes that are left. The
second is written in eight groups of hexadecimal digits, of which one run of zeros may be left out,
and the last two of which may be written as the first kind.
-/

namespace LintHub.Uri

/-- The value of digits in a base; nothing where one is no digit of it. -/
def digitsValue? (base : Nat) (ds : List Char) : Option Nat :=
  ds.foldlM (fun n d => (digitValue d).bind fun v => if v < base then some (n * base + v) else none)
    0

/-- The value of a part of an address: a leading zero asks for base 8, `0x` for base 16. -/
def partValue? (cs : List Char) : Option Nat :=
  match cs with
  | [] => none
  | '0' :: 'x' :: ds | '0' :: 'X' :: ds => digitsValue? 16 ds
  | '0' :: d :: ds => digitsValue? 8 (d :: ds)
  | ds => digitsValue? 10 ds

/-- The parts of a name, an empty one at the end left out. -/
def addressParts (cs : List Char) : List (List Char) :=
  let parts := cs.splitOn '.'
  if parts.getLast? == some [] then parts.dropLast else parts

/-- The name is meant as an address: its last part is a number. -/
def endsInNumber (cs : List Char) : Bool :=
  match (addressParts cs).getLast? with
  | none => false
  | some part => (!part.isEmpty && part.all Char.isDigit) || (partValue? part).isSome

/-- The number that parts make: every part but the last is one byte, the first of them the one of
weight `weight`. -/
def joinParts? : Nat → List Nat → Option Nat
  | _, [] => none
  | _, [n] => some n
  | weight, n :: rest =>
    if n < 256 then (joinParts? (weight / 256) rest).map (n * weight + ·) else none

/-- The address of 32 bits that a name says. -/
def ipv4? (cs : List Char) : Option Nat := do
  let numbers ← (addressParts cs).mapM partValue?
  let last ← numbers.getLast?
  if 4 < numbers.length || Nat.pow 256 (5 - numbers.length) ≤ last then none
  else joinParts? (Nat.pow 256 3) numbers

/-- A byte in base 10, without zeros in front. -/
def decimalByte? (cs : List Char) : Option Nat :=
  match cs with
  | '0' :: _ :: _ => none
  | cs => (digitsValue? 10 cs).filter fun n => !cs.isEmpty && n < 256

/-- The two groups that four bytes in base 10 make. -/
def quadGroups? (cs : List Char) : Option (List Nat) := do
  match ← (cs.splitOn '.').mapM decimalByte? with
  | [a, b, c, d] => return [a * 256 + b, c * 256 + d]
  | _ => none

/-- A group of one to four hexadecimal digits. -/
def group? (cs : List Char) : Option Nat :=
  if cs.isEmpty || 4 < cs.length then none else digitsValue? 16 cs

/-- Groups between colons; at the end of an address bytes may stand for the last two. -/
def groups? (atEnd : Bool) : List (List Char) → Option (List Nat)
  | [] => some []
  | [last] =>
    match group? last with
    | some n => some [n]
    | none => if atEnd then quadGroups? last else none
  | g :: rest => do return (← group? g) :: (← groups? atEnd rest)

/-- Groups of one side of the run that was left out, which may be none. -/
def sideGroups? (atEnd : Bool) (cs : List Char) : Option (List Nat) :=
  if cs.isEmpty then some [] else groups? atEnd (cs.splitOn ':')

/-- The text in front of the first two colons that follow each other, and the text behind them. -/
def cutAtRun : List Char → Option (List Char × List Char)
  | ':' :: ':' :: rest => some ([], rest)
  | c :: rest => (cutAtRun rest).map fun x => (c :: x.1, x.2)
  | [] => none

/-- The eight groups of an address of 128 bits. -/
def ipv6? (cs : List Char) : Option (List Nat) :=
  match cutAtRun cs with
  | none => (groups? true (cs.splitOn ':')).filter (·.length == 8)
  | some (front, back) => do
    let front ← sideGroups? false front
    let back ← sideGroups? true back
    if 7 < front.length + back.length then none
    else return front ++ List.replicate (8 - front.length - back.length) 0 ++ back

/-- The text of an address of 32 bits. -/
def ipv4Text (n : Nat) : String :=
  ".".intercalate ([16777216, 65536, 256, 1].map fun k => toString (n / k % 256))

/-- The length of the run of zeros at the start of groups. -/
def zerosAt (groups : List Nat) : Nat := (groups.takeWhile (· == 0)).length

/-- The start and the length of the longest run of zeros, the first of several. -/
def longestZeros (groups : List Nat) : Nat × Nat :=
  (List.range groups.length).foldl (fun best k =>
    let n := zerosAt (groups.drop k)
    if best.2 < n then (k, n) else best) (0, 0)

/-- The text of an address of 128 bits, the longest run of at least two zeros left out. -/
def ipv6Text (groups : List Nat) : String :=
  let group (n : Nat) : String := String.ofList (Nat.toDigits 16 n)
  let text (l : List Nat) : String := ":".intercalate (l.map group)
  let (start, n) := longestZeros groups
  if n < 2 then text groups
  else text (groups.take start) ++ "::" ++ text (groups.drop (start + n))

end LintHub.Uri
