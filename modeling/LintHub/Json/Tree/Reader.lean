import LintHub.Json.Tree

set_option autoImplicit false

/-!
# Reading JSON text

`Tree.read` turns any text into a `Tree` and the characters after it. Every reader answers with the
rest of the text, or with nothing where a breach ends the reading. The fuel of the recursive readers
counts values, items and members, of which a text holds no more than characters.
-/

namespace LintHub.Json

/-- White space between tokens. -/
def isSpace (c : Char) : Bool :=
  c == ' ' || c == '\n' || c == '\t' || c == '\r'

/-- The text from its first character that is no white space. -/
def skipSpace (cs : List Char) : List Char :=
  cs.dropWhile isSpace

/-- The value of a hexadecimal digit. -/
def hexValue? (c : Char) : Option Nat :=
  if '0' ≤ c ∧ c ≤ '9' then some (c.toNat - '0'.toNat)
  else if 'a' ≤ c ∧ c ≤ 'f' then some (c.toNat - 'a'.toNat + 10)
  else if 'A' ≤ c ∧ c ≤ 'F' then some (c.toNat - 'A'.toNat + 10)
  else none

/-- The value of four hexadecimal digits. -/
def hexUnit? (a b c d : Char) : Option Nat := do
  let a ← hexValue? a
  let b ← hexValue? b
  let c ← hexValue? c
  let d ← hexValue? d
  return ((a * 16 + b) * 16 + c) * 16 + d

/-- The character of an escape of one letter. -/
def simpleEscape? (c : Char) : Option Char :=
  match c with
  | '"' => some '"'
  | '\\' => some '\\'
  | '/' => some '/'
  | 'b' => some '\x08'
  | 'f' => some '\x0c'
  | 'n' => some '\n'
  | 'r' => some '\r'
  | 't' => some '\t'
  | _ => none

/-- The bytes that characters take in UTF-8. -/
def utf8Length (cs : List Char) : Nat :=
  cs.foldl (fun n c => n + c.utf8Size) 0

/-- Puts a piece before the rest of a string. -/
def prependPiece (p : Piece) (r : StringText × Option (List Char)) :
    StringText × Option (List Char) :=
  (⟨p :: r.1.pieces, r.1.ending⟩, r.2)

/-- Reads a string from behind its opening quote. -/
def readString : List Char → StringText × Option (List Char)
  | [] => (⟨[], .cut⟩, none)
  | '"' :: rest => (⟨[], .closed⟩, some rest)
  | ['\\'] => (⟨[], .cut⟩, none)
  | '\\' :: 'u' :: a :: b :: c :: d :: rest =>
    match hexUnit? a b c d with
    | some code => prependPiece (.unit code) (readString rest)
    | none => (⟨[], .badHex⟩, none)
  | '\\' :: 'u' :: rest =>
    (⟨[], if utf8Length rest < 4 then .cut else .badHex⟩, none)
  | '\\' :: e :: rest =>
    match simpleEscape? e with
    | some c => prependPiece (.char c) (readString rest)
    | none => (⟨[], .badEscape⟩, none)
  | c :: rest =>
    if c.toNat < 0x20 then (⟨[], .control⟩, none)
    else prependPiece (.char c) (readString rest)

/-- A digit from 0 to 9. -/
def isDigit (c : Char) : Bool := decide ('0' ≤ c ∧ c ≤ '9')

/-- The number that decimal digits stand for. -/
def digitsValue (ds : List Char) : Nat :=
  ds.foldl (fun n d => n * 10 + (d.toNat - '0'.toNat)) 0

/-- The largest natural that a word of 64 bits holds. -/
def wordMax : Nat := Nat.pow 2 64 - 1

/-- Takes digits into a significand as long as it stays within a word; answers it with the number
of digits taken. -/
def takeDigits (significand : Nat) : List Char → Nat × Nat
  | [] => (significand, 0)
  | d :: rest =>
    let next := significand * 10 + (d.toNat - '0'.toNat)
    if wordMax < next then (significand, 0)
    else
      let (s, n) := takeDigits next rest
      (s, n + 1)

/-- A number as written: its sign, the digits before and after the point, and the exponent. -/
structure Literal where
  negative : Bool
  whole : List Char
  fraction : Option (List Char)
  exponent : Option (Bool × List Char)
  deriving DecidableEq, Repr

/-- The power of ten of an exponent's digits. -/
def exponentValue : Option (Bool × List Char) → Int
  | none => 0
  | some (true, ds) => Int.neg (digitsValue ds)
  | some (false, ds) => digitsValue ds

/-- The number a literal stands for; nothing where it exceeds every double. Digits that do not fit
a word are dropped: those before the point count as powers of ten, those after it not at all. -/
def Literal.number? (l : Literal) : Option Number :=
  let (significand, taken) := takeDigits 0 l.whole
  let excess := l.whole.length - taken
  if l.fraction.isNone && l.exponent.isNone && excess == 0 then
    if !l.negative then some (.natural significand)
    else if 0 < significand ∧ significand ≤ Nat.pow 2 63 then some (.negative significand)
    else some (.real (Decimal.Binary64.ofNat significand).neg)
  else
    let (significand, places) := takeDigits significand (l.fraction.getD [])
    let exponent := exponentValue l.exponent + (excess : Int) - (places : Int)
    (Decimal.Binary64.ofDecimal significand exponent).map fun x =>
      .real (if l.negative then x.neg else x)

/-- Where a literal breaks off: the fault depends on whether the text ends there. -/
def literalBreach (rest : List Char) : Breach :=
  ⟨if rest.isEmpty then .endInValue else .invalidNumber, .invalidNumber⟩

/-- Reads the exponent of a number, if one follows. -/
def readExponent (cs : List Char) : Except Breach (Option (Bool × List Char) × List Char) :=
  match cs with
  | c :: rest =>
    if c == 'e' || c == 'E' then
      let (negative, digits) := match rest with
        | '-' :: r => (true, r)
        | '+' :: r => (false, r)
        | r => (false, r)
      let ds := digits.takeWhile isDigit
      if ds.isEmpty then .error (literalBreach digits)
      else .ok (some (negative, ds), digits.dropWhile isDigit)
    else .ok (none, cs)
  | [] => .ok (none, cs)

/-- Reads the digits after the point of a number, if one follows. -/
def readFraction (cs : List Char) : Except Breach (Option (List Char) × List Char) :=
  match cs with
  | '.' :: rest =>
    let ds := rest.takeWhile isDigit
    if ds.isEmpty then .error (literalBreach rest)
    else .ok (some ds, rest.dropWhile isDigit)
  | cs => .ok (none, cs)

/-- Reads the digits before the point: a single zero, or digits of which the first is none. -/
def readWhole (cs : List Char) : Except Breach (List Char × List Char) :=
  match cs with
  | '0' :: rest =>
    if rest.head?.any isDigit then .error ⟨.invalidNumber, .invalidNumber⟩
    else .ok (['0'], rest)
  | cs =>
    let ds := cs.takeWhile isDigit
    if ds.isEmpty then .error (literalBreach cs)
    else .ok (ds, cs.dropWhile isDigit)

/-- Reads a number. -/
def readNumber (cs : List Char) : Tree × Option (List Char) :=
  let (negative, cs) := match cs with
    | '-' :: r => (true, r)
    | cs => (false, cs)
  let literal : Except Breach (Literal × List Char) := do
    let (whole, cs) ← readWhole cs
    let (fraction, cs) ← readFraction cs
    let (exponent, cs) ← readExponent cs
    return (⟨negative, whole, fraction, exponent⟩, cs)
  match literal with
  | .ok (l, rest) => (.number l.number?, some rest)
  | .error b => (.broken b, none)

/-- Reads the letters of a word after its first one. -/
def readWord (t : Tree) : List Char → List Char → Tree × Option (List Char)
  | [], rest => (t, some rest)
  | _ :: _, [] => (.broken ⟨.endInValue, .endInValue⟩, none)
  | w :: ws, c :: rest =>
    if w == c then readWord t ws rest else (.broken ⟨.expectedIdent, .expectedIdent⟩, none)

mutual

/-- Reads a value after white space. -/
def readValue (fuel : Nat) (cs : List Char) : Tree × Option (List Char) :=
  match fuel with
  | 0 => (.missing, none)
  | fuel + 1 =>
    match skipSpace cs with
    | [] => (.missing, none)
    | 'n' :: rest => readWord .null ['u', 'l', 'l'] rest
    | 't' :: rest => readWord (.bool true) ['r', 'u', 'e'] rest
    | 'f' :: rest => readWord (.bool false) ['a', 'l', 's', 'e'] rest
    | '"' :: rest =>
      let (s, rest) := readString rest
      (.string s, rest)
    | '[' :: rest =>
      let (items, ending, rest) := readItems fuel true rest
      (.array items ending, rest)
    | '\x7b' :: rest =>
      let (members, ending, rest) := readMembers fuel true rest
      (.object members ending, rest)
    | c :: rest =>
      if c == '-' || isDigit c then readNumber (c :: rest)
      else (.broken ⟨.expectedValue, .expectedValue⟩, none)

/-- Reads the items of a list up to its end; `first` holds before the first of them. -/
def readItems (fuel : Nat) (first : Bool) (cs : List Char) :
    List Tree × ListEnd × Option (List Char) :=
  match fuel with
  | 0 => ([], .cut, none)
  | fuel + 1 =>
    match skipSpace cs with
    | [] => ([], .cut, none)
    | c :: rest =>
      if c == ']' then ([], .closed, some rest)
      else if first then readItem fuel (c :: rest)
      else if c == ',' then
        match skipSpace rest with
        | [] => ([], .cutAfterComma, none)
        | d :: rest =>
          if d == ']' then ([], .closedAfterComma, none) else readItem fuel (d :: rest)
      else ([], .stray, none)

/-- Reads an item and the ones after it. -/
def readItem (fuel : Nat) (cs : List Char) : List Tree × ListEnd × Option (List Char) :=
  match fuel with
  | 0 => ([], .cut, none)
  | fuel + 1 =>
    match readValue fuel cs with
    | (t, none) => ([t], .cut, none)
    | (t, some rest) =>
      let (items, ending, rest) := readItems fuel false rest
      (t :: items, ending, rest)

/-- Reads the members of an object up to its end; `first` holds before the first of them. -/
def readMembers (fuel : Nat) (first : Bool) (cs : List Char) :
    List (StringText × Tree) × ObjectEnd × Option (List Char) :=
  match fuel with
  | 0 => ([], .cut, none)
  | fuel + 1 =>
    match skipSpace cs with
    | [] => ([], .cut, none)
    | c :: rest =>
      if c == '\x7d' then ([], .closed, some rest)
      else if first then readMember fuel (c :: rest)
      else if c == ',' then
        match skipSpace rest with
        | [] => ([], .cutAfterComma, none)
        | d :: rest =>
          if d == '\x7d' then ([], .closedAfterComma, none) else readMember fuel (d :: rest)
      else ([], .stray, none)

/-- Reads a member and the ones after it. -/
def readMember (fuel : Nat) (cs : List Char) :
    List (StringText × Tree) × ObjectEnd × Option (List Char) :=
  match fuel with
  | 0 => ([], .cut, none)
  | fuel + 1 =>
    match cs with
    | '"' :: rest =>
      match readString rest with
      | (n, none) => ([(n, .null)], .cut, none)
      | (n, some rest) =>
        match skipSpace rest with
        | [] => ([(n, .broken ⟨.endInObject, .endInObject⟩)], .cut, none)
        | ':' :: rest =>
          match readValue fuel rest with
          | (t, none) => ([(n, t)], .cut, none)
          | (t, some rest) =>
            let (members, ending, rest) := readMembers fuel false rest
            ((n, t) :: members, ending, rest)
        | _ :: _ => ([(n, .broken ⟨.expectedColon, .expectedColon⟩)], .cut, none)
    | cs => ([], .badName (readValue fuel cs).1, none)

end

/-- The value at the start of a text and what follows it. -/
def Tree.read (s : String) : Tree × Option (List Char) :=
  let cs := s.toList
  readValue (3 * cs.length + 3) cs

/-- What follows a value is white space, or its first other character is one too many. -/
def endOfText : Option (List Char) → Except Fault Unit
  | none => .ok ()
  | some rest => if (skipSpace rest).isEmpty then .ok () else .error .trailingCharacters

/-- The value that a JSON text stands for. -/
def Value.parse (s : String) : Except Fault Value := do
  let (t, rest) := Tree.read s
  let v ← t.value
  endOfText rest
  return v

end LintHub.Json
