import LintHub.Decimal.Binary64
import LintHub.Shell.Bytes

set_option autoImplicit false

/-!
# Formats

What `printf` and `echo` write. A format is gone through again as long as it takes up arguments; a
conversion puts an argument into a field. An argument that is no number is complained about, and
counts for as much of a number as it starts with.
-/

namespace LintHub.Shell

open LintHub.Decimal

/-! ## Echo -/

/-- What `echo` of the shell writes. -/
def echo (args : List Bytes) : Bytes :=
  let (silent, args) := match args with
    | [45, 110] :: rest => (true, rest)
    | args => (false, args)
  let text := joined args
  let (out, stop) := unescape (text.length + 1) text
  if silent || stop then out else out ++ [10]

/-- What `echo` outside the shell writes: escapes only where they are asked for. -/
def plainEcho : Bool → Bool → List Bytes → Bytes
  | _, escapes, [45, 110] :: rest => plainEcho true escapes rest
  | silent, _, [45, 101] :: rest => plainEcho silent true rest
  | silent, _, [45, 69] :: rest => plainEcho silent false rest
  | silent, escapes, args =>
    let text := joined args
    let (out, stop) := if escapes then unescape (text.length + 1) text else (text, false)
    if silent || stop then out else out ++ [10]

/-! ## Fields -/

/-- How a value is put into its field. -/
structure FieldShape where
  leftAligned : Bool
  zeroPadded : Bool
  /-- What stands in front of a number that is not negative. -/
  plus : Bytes
  /-- The base is shown, and a point in any case. -/
  alternate : Bool
  width : Nat
  precision : Option Nat
  deriving DecidableEq, Repr

namespace FieldShape

/-- A sign or base in front of digits, in a field. -/
def fit (s : FieldShape) (front digits : Bytes) (zeros : Bool) : Bytes :=
  let pad := s.width - (front.length + digits.length)
  if s.leftAligned then front ++ digits ++ List.replicate pad 32
  else if s.zeroPadded && zeros then front ++ List.replicate pad 48 ++ digits
  else List.replicate pad 32 ++ front ++ digits

/-- Text in a field. -/
def fitText (s : FieldShape) (bs : Bytes) : Bytes :=
  s.fit [] (bs.take (s.precision.getD bs.length)) false

/-- Digits with as many zeros in front as the precision asks for; a zero may vanish. -/
def padDigits (s : FieldShape) (base n : Nat) : Bytes :=
  let digits := if n == 0 && s.precision == some 0 then [] else (Nat.toDigits base n).map byteOf
  List.replicate (s.precision.getD 0 - digits.length) 48 ++ digits

/-- A signed integer in a field. -/
def fitInteger (s : FieldShape) (n : Int) : Bytes :=
  s.fit (if n < 0 then [45] else s.plus) (s.padDigits 10 n.natAbs) s.precision.isNone

/-- A natural number in a field, in the base of a letter. -/
def fitNatural (s : FieldShape) (letter : Char) (n : Nat) : Bytes :=
  let zeros := s.precision.isNone
  match letter with
  | 'o' =>
    let digits := s.padDigits 8 n
    s.fit [] (if s.alternate && digits.head? != some 48 then 48 :: digits else digits) zeros
  | 'x' => s.fit (if s.alternate && n != 0 then [48, 120] else []) (s.padDigits 16 n) zeros
  | 'X' =>
    s.fit (if s.alternate && n != 0 then [48, 88] else [])
      ((s.padDigits 16 n).map fun b => byteOf (charOf b).toUpper) zeros
  | _ => s.fit [] (s.padDigits 10 n) zeros

end FieldShape

/-! ## Numbers with a fraction -/

/-- A number that may have a fraction. -/
inductive Real where
  | finite (x : Binary64)
  | infinite (negative : Bool)
  | undefined
  deriving DecidableEq, Repr

namespace Real

/-- Digits with a point in front of the last `places` of them. -/
def point (alternate : Bool) (places n : Nat) : Bytes :=
  let ds := (Nat.toDigits 10 n).map byteOf
  let ds := List.replicate (places + 1 - ds.length) 48 ++ ds
  let whole := ds.take (ds.length - places)
  if places == 0 && !alternate then whole else whole ++ 46 :: ds.drop whole.length

/-- A ratio with a number of places behind the point. -/
def fixed (alternate : Bool) (places num den : Nat) : Bytes :=
  point alternate places (Binary64.roundDiv (num * Nat.pow 10 places) den)

/-- The power of ten at the first digit of a ratio. -/
def leadingPower (num den : Nat) : Int :=
  if num == 0 then 0
  else if den ≤ num then ((Nat.toDigits 10 (num / den)).length : Int) - 1
  else
    let k : Nat := ((List.range 400).find? fun k => den ≤ num * Nat.pow 10 k).getD 0
    Int.neg k

/-- The digits of a ratio with one of them in front of the point, and the power of ten. -/
def normalized (places num den : Nat) : Nat × Int :=
  let power := leadingPower num den
  let shift : Int := places - power
  let digits := if 0 ≤ shift then Binary64.roundDiv (num * Nat.pow 10 shift.toNat) den
    else Binary64.roundDiv num (den * Nat.pow 10 shift.natAbs)
  if digits == Nat.pow 10 (places + 1) then (Nat.pow 10 places, power + 1) else (digits, power)

/-- The exponent as it is written. -/
def powerText (power : Int) : Bytes :=
  let ds := (Nat.toDigits 10 power.natAbs).map byteOf
  byteOf 'e' :: byteOf (if power < 0 then '-' else '+') ::
    (List.replicate (2 - ds.length) 48 ++ ds)

/-- A ratio with an exponent. -/
def scientific (alternate : Bool) (places num den : Nat) : Bytes :=
  let (digits, power) := normalized places num den
  point alternate places digits ++ powerText power

/-- Digits without the zeros behind the point that say nothing. -/
def trimZeros (bs : Bytes) : Bytes :=
  let front := bs.takeWhile (· != 101)
  let trimmed := if front.contains 46 then
      let kept := (front.reverse.dropWhile (· == 48)).reverse
      if kept.getLast? == some 46 then kept.dropLast else kept
    else front
  trimmed ++ bs.drop front.length

/-- A ratio with an exponent or without one, whichever is shorter. -/
def general (alternate : Bool) (precision num den : Nat) : Bytes :=
  let precision := max precision 1
  let (_, power) := normalized (precision - 1) num den
  let text :=
    if power < -4 || (precision : Int) ≤ power then
      scientific alternate (precision - 1) num den
    else fixed alternate ((precision : Int) - 1 - power).toNat num den
  if alternate then text else trimZeros text

/-- A number in a field, in the form of a letter. -/
def fit (s : FieldShape) (letter : Char) (x : Real) : Bytes :=
  let cased (bs : Bytes) : Bytes :=
    if letter.isUpper then bs.map fun b => byteOf (charOf b).toUpper else bs
  match x with
  | .undefined => s.fit s.plus (cased (bytesOf "nan")) false
  | .infinite negative => s.fit (if negative then [45] else s.plus) (cased (bytesOf "inf")) false
  | .finite x =>
    let places := s.precision.getD 6
    let (num, den) := x.ratio
    let digits := match letter.toLower with
      | 'e' => scientific s.alternate places num den
      | 'g' => general s.alternate places num den
      | _ => fixed s.alternate places num den
    s.fit (if x.negative then [45] else s.plus) (cased digits) true

/-- The exponent at the start of a text, and what follows; without digits there is none. -/
def takeExponent (cs : List Char) : Int × List Char :=
  match cs with
  | e :: rest =>
    if e != 'e' && e != 'E' then (0, cs)
    else
      let (negative, digits) := match rest with
        | '-' :: ds => (true, ds)
        | '+' :: ds => (false, ds)
        | ds => (false, ds)
      match takeDigits 10 digits with
      | ([], _) => (0, cs)
      | (ds, after) =>
        let n := min (digitsNumber 10 ds) 100000
        (if negative then Int.neg n else n, after)
  | [] => (0, [])

/-- The finite number that digits and an exponent write, if it is not too large. -/
def ofDigits (negative : Bool) (digits : Nat) (power : Int) : Real :=
  let power := max (min power 5000) (-5000)
  let x := if 0 ≤ power then Binary64.ofRatio (digits * Nat.pow 10 power.toNat) 1
    else Binary64.ofRatio digits (Nat.pow 10 power.natAbs)
  match x with
  | some x => .finite { x with negative }
  | none => .infinite negative

/-- The number at the start of a text, and what follows. -/
def take? (cs : List Char) : Option (Real × List Char) :=
  let (negative, body) := match cs.dropWhile fun c => isSpaceByte (byteOf c) with
    | '-' :: rest => (true, rest)
    | '+' :: rest => (false, rest)
    | rest => (false, rest)
  let starts (word : String) : Bool := word.toList.isPrefixOf (body.map Char.toLower)
  if starts "infinity" then some (.infinite negative, body.drop 8)
  else if starts "inf" then some (.infinite negative, body.drop 3)
  else if starts "nan" then some (.undefined, body.drop 3)
  else
    let (whole, rest) := takeDigits 10 body
    let (fraction, rest) := match rest with
      | '.' :: rest => takeDigits 10 rest
      | rest => ([], rest)
    if whole.isEmpty && fraction.isEmpty then none
    else
      let (power, rest) := takeExponent rest
      some (ofDigits negative (digitsNumber 10 (whole ++ fraction)) (power - fraction.length), rest)

end Real

/-! ## Conversions -/

/-- What has been written by a format. -/
structure Printed where
  output : Bytes
  complaints : List String
  /-- Nothing more is written, and with which status it ends. -/
  stopped : Option Nat
  deriving DecidableEq, Repr

namespace Printed

/-- Nothing. -/
def empty : Printed := ⟨[], [], none⟩

/-- What comes first, followed by more. -/
def append (p q : Printed) : Printed :=
  ⟨p.output ++ q.output, p.complaints ++ q.complaints, q.stopped⟩

/-- The status with which it ends. -/
def status (p : Printed) : Nat :=
  if p.complaints.isEmpty then p.stopped.getD 0 else max 1 (p.stopped.getD 0)

end Printed

/-- What is complained about where an argument goes on behind a number, or where it is none. -/
def numberComplaints (arg : Bytes) (rest : Option (List Char)) : List String :=
  match rest with
  | some [] => []
  | some _ => [textOf arg ++ ": not completely converted"]
  | none => if arg.isEmpty then [] else [textOf arg ++ ": expected numeric value"]

/-- An integer brought into a range, and what is complained about where it was not in it. -/
def clamp (low high : Int) (arg : Bytes) (n : Int) : Int × List String :=
  if n < low then (low, [textOf arg ++ ": Numerical result out of range"])
  else if high < n then (high, [textOf arg ++ ": Numerical result out of range"])
  else (n, [])

/-- The integer that an argument stands for, a character behind a quote by its number, and what is
complained about. -/
def integerArgument (signed : Bool) (arg : Bytes) : Int × List String :=
  match arg with
  | 39 :: rest | 34 :: rest => ((rest.headD 0).toNat, [])
  | arg =>
    let (n, complaints) := match takeInteger? (arg.map charOf) with
      | some (n, rest) => (n, numberComplaints arg (some rest))
      | none => ((0 : Int), numberComplaints arg none)
    let word : Int := Nat.pow 2 64
    let (n, more) := if signed then clamp (-(Nat.pow 2 63 : Nat)) (Nat.pow 2 63 - 1) arg n
      else clamp (-(word - 1)) (word - 1) arg n
    (n, if complaints.isEmpty then more else complaints)

/-- The value of an argument in the form that a letter asks for; nothing where the letter asks for
none. -/
def convert? (letter : Char) (shape : FieldShape) (arg : Option Bytes) : Option Printed :=
  let given := arg.getD []
  match letter with
  | 's' => some ⟨shape.fitText given, [], none⟩
  | 'b' =>
    let (out, stop) := unescape (given.length + 1) given
    some ⟨shape.fitText out, [], if stop then some 0 else none⟩
  | 'c' => some ⟨shape.fit [] [given.headD 0] false, [], none⟩
  | _ =>
    if letter == 'd' || letter == 'i' then
      let (n, complaints) := integerArgument true given
      some ⟨shape.fitInteger n, complaints, none⟩
    else if ['o', 'u', 'x', 'X'].contains letter then
      let (n, complaints) := integerArgument false given
      let n := if n < 0 then (Nat.pow 2 64 : Int) + n else n
      some ⟨shape.fitNatural letter n.toNat, complaints, none⟩
    else if ['e', 'E', 'f', 'F', 'g', 'G'].contains letter then
      let (x, rest) := match Real.take? (given.map charOf) with
        | some (x, rest) => (x, some rest)
        | none => (.finite .zero, none)
      some ⟨x.fit shape letter, numberComplaints given rest, none⟩
    else none

/-- What remains to be read behind a part of a conversion, and what was complained about. -/
structure FormatRest where
  format : Bytes
  args : List Bytes
  complaints : List String

/-- A width or precision: digits, or an argument. -/
def takeSize (r : FormatRest) : Option Int × FormatRest :=
  match r.format with
  | 42 :: rest =>
    let (n, complaints) := integerArgument true (r.args.headD [])
    (some n, ⟨rest, r.args.drop 1, r.complaints ++ complaints⟩)
  | bs =>
    let ds := bs.takeWhile fun b => 48 ≤ b && b ≤ 57
    ((natural? ds).map fun n => (n : Int), { r with format := bs.drop ds.length })

/-- The shape of a conversion whose percent sign was read. -/
def takeShape (bs : Bytes) (args : List Bytes) : FieldShape × FormatRest :=
  let flags := bs.takeWhile fun b => ['-', '0', '+', ' ', '#'].contains (charOf b)
  let (width, r) := takeSize ⟨bs.drop flags.length, args, []⟩
  let (precision, r) := match r.format with
    | 46 :: rest =>
      let (p, r) := takeSize { r with format := rest }
      (some (p.getD 0), r)
    | _ => (none, r)
  let has (c : Char) : Bool := flags.contains (byteOf c)
  let width := width.getD 0
  (⟨has '-' || width < 0, has '0', if has '+' then [43] else if has ' ' then [32] else [], has '#',
    width.natAbs, (precision.filter (0 ≤ ·)).map Int.toNat⟩, r)

/-- One pass over a format: what it writes, and the arguments it leaves. -/
def formatOnce : Nat → Bytes → List Bytes → Printed × List Bytes
  | 0, _, args => (.empty, args)
  | _ + 1, [], args => (.empty, args)
  | fuel + 1, 92 :: rest, args =>
    let (out, rest) := escape rest
    let (p, args) := formatOnce fuel rest args
    (Printed.append ⟨out, [], none⟩ p, args)
  | fuel + 1, 37 :: 37 :: rest, args =>
    let (p, args) := formatOnce fuel rest args
    (Printed.append ⟨[37], [], none⟩ p, args)
  | fuel + 1, 37 :: rest, args =>
    let (shape, ⟨after, args, complaints⟩) := takeShape rest args
    match after with
    | [] => (⟨[], complaints ++ ["missing format character"], some 2⟩, args)
    | letter :: after =>
      match convert? (charOf letter) shape args.head? with
      | none =>
        let directive := textOf (37 :: rest.take (rest.length - after.length))
        (⟨[], complaints ++ [directive ++ ": invalid directive"], some 2⟩, args)
      | some first =>
        let first := { first with complaints := complaints ++ first.complaints }
        if first.stopped.isSome then (first, [])
        else
          let (p, args) := formatOnce fuel after (args.drop 1)
          (first.append p, args)
  | fuel + 1, b :: rest, args =>
    let (p, args) := formatOnce fuel rest args
    (Printed.append ⟨[b], [], none⟩ p, args)

/-- What `printf` writes: the format is gone through again as long as it takes up arguments. -/
def format : Nat → Bytes → List Bytes → Printed
  | 0, _, _ => .empty
  | fuel + 1, f, args =>
    let (p, left) := formatOnce (f.length + 1) f args
    if p.stopped.isSome || left.isEmpty || left.length == args.length then p
    else p.append (format fuel f left)

end LintHub.Shell
