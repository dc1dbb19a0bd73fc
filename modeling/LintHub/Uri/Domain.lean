import LintHub.Text.Alphanumeric
import LintHub.Text.Unprintable
import LintHub.Uri.DomainChars
import LintHub.Uri.Percent

set_option autoImplicit false

/-!
# Domain names

A domain name is brought into one form before it is compared: letters are small, other shapes of
ASCII text are replaced by it, and characters that leave no trace are left out. A name is refused if
a character may not stand in it, or if one of its labels is malformed. A label that starts with
`xn--` spells a label of other scripts in ASCII.
-/

namespace LintHub.Domain

open LintHub.Text

/-- An ASCII character that ends a domain name or that none may hold. -/
def isForbidden (c : Char) : Bool :=
  c.toNat ≤ 0x20 || c.toNat == 0x7F ||
    ['#', '%', '/', ':', '<', '>', '?', '@', '[', '\\', ']', '^', '|'].contains c

/-- The ASCII text of which a character is another shape. -/
def asciiForm? (c : Char) : Option (List Char) :=
  let place {α : Type} (r : Nat × List α) : Option α :=
    if r.1 ≤ c.toNat then r.2[c.toNat - r.1]? else none
  match asciiShapes.findSome? fun r => place (r.1, r.2.toList) with
  | some d => some [d]
  | none => (asciiTexts.findSome? place).map String.toList

/-- The two signs that say how the letters around them join. -/
def isJoiner (c : Char) : Bool := c.toNat == 0x200C || c.toNat == 0x200D

/-- What a character becomes in a domain name, if it may stand there. -/
def foldChar (c : Char) : Option (List Char) :=
  if c.toNat < 0x80 then (if isForbidden c then none else some [c.toLower])
  else if ignoredRanges.contains c then some []
  else
    match asciiForm? c with
    | some cs => some cs
    | none =>
      if isJoiner c then some [c]
      else if refusedRanges.contains c || isUnprintable c then none
      else some [c]

/-- What a text becomes in a domain name. -/
def fold? (cs : List Char) : Option (List Char) := (cs.mapM foldChar).map List.flatten

/-! ## Labels in ASCII -/

/-- The value of a digit in base 36. -/
def digit36? (c : Char) : Option Nat :=
  if 'a' ≤ c && c ≤ 'z' then some (c.toNat - 97)
  else if c.isDigit then some (c.toNat - 22)
  else none

/-- How many units a digit at position `k` leaves to the digits behind it. -/
def threshold (bias k : Nat) : Nat :=
  if k ≤ bias then 1 else if bias + 26 ≤ k then 26 else k - bias

/-- The number at the start of digits, written with the least significant digit first, and the rest.
A digit below the threshold of its position ends the number. -/
def takeNumber (bias : Nat) : Nat → Nat → Nat → List Char → Option (Nat × List Char)
  | _, _, _, [] => none
  | k, weight, n, c :: rest => do
    let d ← digit36? c
    let n := n + d * weight
    let t := threshold bias k
    if Nat.pow 2 32 ≤ n then none
    else if d < t then return (n, rest)
    else takeNumber bias (k + 36) (weight * (36 - t)) n rest

/-- Halves a distance until it is small, counting the steps in units of one position. -/
def spread : Nat → Nat → Nat → Nat
  | 0, k, _ => k
  | fuel + 1, k, delta =>
    if 455 < delta then spread fuel (k + 36) (delta / 35) else k + 36 * delta / (delta + 38)

/-- The bias for the next number, from the distance that the last one bridged. -/
def adapt (delta count : Nat) (first : Bool) : Nat :=
  let delta := if first then delta / 700 else delta / 2
  spread 32 0 (delta + delta / count)

/-- The next character to insert and where. -/
structure Insertion where
  code : Nat
  place : Nat
  bias : Nat
  first : Bool

/-- Inserts the characters that digits say into a text. -/
def insertAll : Nat → Insertion → List Char → List Char → Option (List Char)
  | 0, _, out, _ => some out
  | _ + 1, _, out, [] => some out
  | fuel + 1, s, out, digits => do
    let (delta, rest) ← takeNumber s.bias 36 1 0 digits
    let count := out.length + 1
    let i := s.place + delta
    let code := s.code + i / count
    let place := i % count
    if 0x10FFFF < code || (Char.ofNat code).toNat != code then none
    else
      insertAll fuel ⟨code, place + 1, adapt delta count s.first, false⟩
        (out.take place ++ Char.ofNat code :: out.drop place) rest

/-- The label that a text behind `xn--` spells. The ASCII characters of the label stand in front of
the last hyphen. -/
def respell? (cs : List Char) : Option (List Char) :=
  let digits := (cs.reverse.takeWhile (· != '-')).reverse
  let ascii := (cs.take (cs.length - digits.length)).dropLast
  insertAll (digits.length + 1) ⟨128, 0, 72, true⟩ ascii digits

/-- A respelled label holds a character beyond ASCII, and each of its characters stands for
itself. -/
def isRespelled (cs : List Char) : Bool :=
  cs.any (0x80 ≤ ·.toNat) && cs.all fun c => foldChar c == some [c]

/-- The label that a label stands for. -/
def label? (cs : List Char) : Option (List Char) :=
  match cs with
  | 'x' :: 'n' :: '-' :: '-' :: rest => (respell? rest).filter isRespelled
  | cs => some cs

/-! ## Labels -/

/-- Joiners stand only behind the signs that join. -/
def joinersFit : Option Char → List Char → Bool
  | _, [] => true
  | before, c :: rest =>
    (!isJoiner c || before.any joiningRanges.contains) && joinersFit (some c) rest

/-- A label starts with a character that stands alone. -/
def isLabel (cs : List Char) : Bool := !cs.head?.any isExtending && joinersFit none cs

/-- The character runs from right to left. -/
def isRightToLeft (c : Char) : Bool := rightToLeftRanges.contains c

/-- The character is a digit of a script that runs from right to left. -/
def isArabicDigit (c : Char) : Bool := arabicDigitRanges.contains c

/-- The character is a digit that runs from left to right. -/
def isEuropeanDigit (c : Char) : Bool := europeanDigitRanges.contains c

/-- The character runs from left to right. -/
def isLeftToRight (c : Char) : Bool :=
  isAlphanumeric c && !isExtending c && !isRightToLeft c && !isArabicDigit c && !isEuropeanDigit c

/-- The label reads in one direction: one from right to left ends in a letter or digit and has
digits of one sort, and none mixes letters of the two directions. -/
def readsOneWay (cs : List Char) : Bool :=
  match cs, (cs.reverse.dropWhile isExtending).head? with
  | c :: _, some last =>
    if isRightToLeft c then
      !cs.any isLeftToRight && !(cs.any isArabicDigit && cs.any isEuropeanDigit) &&
        (isRightToLeft last || isArabicDigit last || isEuropeanDigit last)
    else
      isLeftToRight c && !cs.any isRightToLeft && !cs.any isArabicDigit &&
        (isLeftToRight last || isEuropeanDigit last)
  | [], _ => true
  | _, none => false

/-- The labels of a name, in the form in which they are read. -/
def labels? (cs : List Char) : Option (List (List Char)) :=
  (cs.splitOn '.').mapM label?

/-- The form of a name in which it is compared, if it is one. -/
def normalize? (cs : List Char) : Option String := do
  let cs ← fold? cs
  let labels ← labels? cs
  let mixed := labels.any fun l => l.any fun c => isRightToLeft c || isArabicDigit c
  if labels.all fun l => isLabel l && (!mixed || readsOneWay l) then return String.ofList cs
  else none

end LintHub.Domain
