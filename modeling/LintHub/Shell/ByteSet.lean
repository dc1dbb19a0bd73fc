import LintHub.Shell.Bytes

set_option autoImplicit false

/-!
# Sets of bytes

Classes of bytes by their names, and sets of bytes as `tr` takes them. A set is read into items,
which list bytes in an order; some items may stand only in one of two sets.
-/

namespace LintHub.Shell

/-- The byte is a printable ASCII character. -/
def isPrintable (b : UInt8) : Bool := 32 ≤ b && b < 127

/-- The bytes of a named class. -/
def classBytes? (name : String) : Option Bytes :=
  let pick (p : Char → Bool) : Option Bytes :=
    some ((((List.range 128).map Char.ofNat).filter p).map byteOf)
  match name with
  | "upper" => pick Char.isUpper
  | "lower" => pick Char.isLower
  | "alpha" => pick Char.isAlpha
  | "digit" => pick Char.isDigit
  | "alnum" => pick Char.isAlphanum
  | "space" => some [9, 10, 11, 12, 13, 32]
  | "blank" => some [9, 32]
  | "punct" => pick fun c => 32 < c.toNat && c.toNat < 127 && !c.isAlphanum
  | "cntrl" => pick fun c => c.toNat < 32 || c.toNat == 127
  | "print" => pick fun c => 32 ≤ c.toNat && c.toNat < 127
  | "graph" => pick fun c => 32 < c.toNat && c.toNat < 127
  | "xdigit" => pick fun c => (hexValue? c).isSome
  | _ => none

/-- The bytes from one to another. -/
def byteRange (first last : UInt8) : Bytes :=
  (List.range (last.toNat + 1 - first.toNat)).map fun k => (first.toNat + k).toUInt8

/-! ## Items -/

/-- What a set lists at one place. -/
inductive SetItem where
  | byte (b : UInt8)
  | range (first last : UInt8)
  | named (name : String) (members : Bytes)
  /-- The bytes that count as the same as one. -/
  | alike (b : UInt8)
  /-- One byte several times; zero times stand for as often as it takes. -/
  | repeated (b : UInt8) (count : Nat)
  deriving DecidableEq, Repr

namespace SetItem

/-- The bytes that an item lists, in order. -/
def bytes : SetItem → Bytes
  | byte b | alike b => [b]
  | range first last => byteRange first last
  | named _ members => members
  | repeated b count => List.replicate count b

/-- The item fills up what is left. -/
def fills : SetItem → Bool
  | repeated _ 0 => true
  | _ => false

/-- The item is a class of bytes. -/
def isNamed : SetItem → Bool
  | named _ _ => true
  | _ => false

/-- The item is a class of letters of one case. -/
def isCase : SetItem → Bool
  | named name _ => name == "upper" || name == "lower"
  | _ => false

end SetItem

/-- The bytes that items list, in order. -/
def listed (items : List SetItem) : Bytes := items.flatMap SetItem.bytes

/-- What is wrong with sets. -/
inductive SetFault where
  | reversedRange (first last : UInt8)
  | missingClass
  | unknownClass (name : Bytes)
  | missingAlike
  | longAlike (operand : Bytes)
  | badCount (count : Bytes)
  | fillInFirst
  | severalFills
  | fillWithoutExchange
  | alikeInSecond
  | classInSecond
  | misalignedCase
  | emptySecond
  | classAtEnd
  | complementOfClass
  deriving DecidableEq, Repr

/-- A byte, written so that it can be seen. -/
def visible (b : UInt8) : String :=
  if b == 92 then "\\\\"
  else if isPrintable b then (charOf b).toString
  else
    match charOf b with
    | '\x07' => "\\a"
    | '\x08' => "\\b"
    | '\x0c' => "\\f"
    | '\n' => "\\n"
    | '\r' => "\\r"
    | '\t' => "\\t"
    | '\x0b' => "\\v"
    | _ =>
      let ds := Nat.toDigits 8 b.toNat
      "\\" ++ String.ofList (List.replicate (3 - ds.length) '0' ++ ds)

/-- An end of a range, written so that it can be seen. -/
def visibleEnd (b : UInt8) : String :=
  if isPrintable b then (charOf b).toString
  else
    let ds := Nat.toDigits 8 b.toNat
    "\\" ++ String.ofList (List.replicate (3 - ds.length) '0' ++ ds)

/-- Bytes, written so that they can be seen. -/
def visibleBytes (bs : Bytes) : String := String.join (bs.map visible)

/-- Bytes in quotes, written so that they can be seen. -/
def quotedVisible (bs : Bytes) : String :=
  "'" ++ String.join (bs.map fun b => if b == 39 then "\\'" else visible b) ++ "'"

/-- The wording of a fault. -/
def SetFault.text : SetFault → String
  | reversedRange first last =>
    "range-endpoints of '" ++ visibleEnd first ++ "-" ++ visibleEnd last ++
      "' are in reverse collating sequence order"
  | missingClass => "missing character class name '[::]'"
  | unknownClass name =>
    "invalid character class " ++ quotedVisible (bytesOf (visibleBytes name))
  | missingAlike => "missing equivalence class character '[==]'"
  | longAlike operand =>
    visibleBytes operand ++ ": equivalence class operand must be a single character"
  | badCount count =>
    "invalid repeat count " ++ quotedVisible (bytesOf (visibleBytes count)) ++
      " in [c*n] construct"
  | fillInFirst => "the [c*] repeat construct may not appear in string1"
  | severalFills => "only one [c*] repeat construct may appear in string2"
  | fillWithoutExchange => "the [c*] construct may appear in string2 only when translating"
  | alikeInSecond => "[=c=] expressions may not appear in string2 when translating"
  | classInSecond =>
    "when translating, the only character classes that may appear in\n" ++
      "string2 are 'upper' and 'lower'"
  | misalignedCase => "misaligned [:upper:] and/or [:lower:] construct"
  | emptySecond => "when not truncating set1, string2 must be non-empty"
  | classAtEnd =>
    "when translating with string1 longer than string2,\n" ++
      "the latter string must not end with a character class"
  | complementOfClass =>
    "when translating with complemented character classes,\n" ++
      "string2 must map all characters in the domain to one"

/-! ## Reading a set -/

/-- A byte of a set, and whether it stood behind a backslash, which takes its meaning. -/
structure SetByte where
  byte : UInt8
  quoted : Bool
  deriving DecidableEq, Repr

/-- The byte stands for a construct of sets. -/
def SetByte.means (b : UInt8) (x : SetByte) : Bool := x.byte == b && !x.quoted

/-- What is said about a backslash at the end of a set. -/
def loneBackslash : String :=
  "warning: an unescaped backslash at end of string is not portable"

/-- What is said about three octal digits that are too much for a byte. -/
def largeOctal (ds : Bytes) : String :=
  let two := textOf (ds.take 2)
  let third := textOf (ds.drop 2)
  "warning: the ambiguous octal escape \\" ++ two ++ third ++
    " is being\n\tinterpreted as the 2-byte sequence \\0" ++ two ++ ", " ++ third

/-- The bytes of a set with its escapes replaced, and what is said about them. -/
def setBytes : Nat → Bytes → List SetByte × List String
  | 0, _ | _ + 1, [] => ([], [])
  | _ + 1, [92] => ([⟨92, false⟩], [loneBackslash])
  | fuel + 1, 92 :: b :: rest =>
    if isOctal b then
      let ds := ((b :: rest).take 3).takeWhile isOctal
      let large := 255 < octalValue ds
      let ds' := if large then ds.take 2 else ds
      let (more, said) := setBytes fuel ((b :: rest).drop ds'.length)
      (⟨(octalValue ds').toUInt8, true⟩ :: more, if large then largeOctal ds :: said else said)
    else
      let (more, said) := setBytes fuel rest
      (⟨(namedEscape? b).getD b, true⟩ :: more, said)
  | fuel + 1, b :: rest =>
    let (more, said) := setBytes fuel rest
    (⟨b, false⟩ :: more, said)

/-- The bytes up to a mark and a bracket that end a construct, and what follows these. -/
def takeClosed (mark : UInt8) : List SetByte → Option (Bytes × List SetByte)
  | a :: b :: rest =>
    if a.means mark && b.means 93 then some ([], rest)
    else (takeClosed mark (b :: rest)).map fun x => (a.byte :: x.1, x.2)
  | _ => none

/-- A star, digits and a bracket stand here. -/
def isCounted : List SetByte → Bool
  | star :: rest =>
    star.means 42 &&
      match rest.dropWhile fun x => 48 ≤ x.byte && x.byte ≤ 57 with
      | x :: _ => x.means 93
      | [] => false
  | [] => false

/-- The number of a repetition: octal where it starts with a zero. -/
def repetition? (ds : Bytes) : Option Nat :=
  let cs := ds.map charOf
  match takeDigits (if cs.head? == some '0' then 8 else 10) cs with
  | (values, []) =>
    if values.isEmpty then none
    else some (digitsNumber (if cs.head? == some '0' then 8 else 10) values)
  | _ => none

/-- The repetition behind a bracket, if there is one, and what follows it. -/
def takeRepetition : List SetByte → Except SetFault (Option (SetItem × List SetByte))
  | b :: star :: rest =>
    if !star.means 42 then .ok none
    else
      let ds := rest.takeWhile fun x => !x.quoted && x.byte != 93
      match rest.drop ds.length with
      | close :: after =>
        if !close.means 93 then .ok none
        else if ds.isEmpty then .ok (some (.repeated b.byte 0, after))
        else
          match repetition? (ds.map SetByte.byte) with
          | some n => .ok (some (.repeated b.byte n, after))
          | none => .error (.badCount (ds.map SetByte.byte))
      | [] => .ok none
  | _ => .ok none

/-- The construct behind a bracket, if there is one, and what follows it. -/
def takeBracket (l : List SetByte) : Except SetFault (Option (SetItem × List SetByte)) :=
  match l with
  | mark :: rest =>
    match if mark.means 58 || mark.means 61 then takeClosed mark.byte rest else none with
    | none => takeRepetition l
    | some (operand, after) =>
      if mark.byte == 58 then
        if operand.isEmpty then .error .missingClass
        else
          match classBytes? (textOf operand) with
          | some members => .ok (some (.named (textOf operand) members, after))
          | none => if isCounted rest then takeRepetition l else .error (.unknownClass operand)
      else
        match operand with
        | [] => .error .missingAlike
        | [b] => .ok (some (.alike b, after))
        | _ => if isCounted rest then takeRepetition l else .error (.longAlike operand)
  | [] => .ok none

/-- The items of a set. -/
def setItems : Nat → List SetByte → Except SetFault (List SetItem)
  | 0, l => .ok (l.map fun x => .byte x.byte)
  | fuel + 1, a :: b :: c :: rest => do
    let bracket ← if a.means 91 then takeBracket (b :: c :: rest) else pure none
    match bracket with
    | some (item, after) => return item :: (← setItems fuel after)
    | none =>
      if !b.means 45 then return .byte a.byte :: (← setItems fuel (b :: c :: rest))
      else if c.byte < a.byte then .error (.reversedRange a.byte c.byte)
      else return .range a.byte c.byte :: (← setItems fuel rest)
  | _ + 1, l => .ok (l.map fun x => .byte x.byte)

/-- The items of a set as it is given, and what is said about its escapes. -/
def readSet (bs : Bytes) : Except SetFault (List SetItem) × List String :=
  let (l, said) := setBytes (bs.length + 1) bs
  (setItems (l.length + 1) l, said)

end LintHub.Shell
