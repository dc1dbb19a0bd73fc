import LintHub.Shell.Tool.Arguments

set_option autoImplicit false

/-!
# Letting time pass

What `sleep` does: the durations of its arguments pass, in milliseconds.
-/

namespace LintHub.Shell

/-- What remains of a number to be read behind its digits: a power of ten, and what follows. -/
def takeExponent (cs : List Char) : Int × List Char :=
  match cs with
  | 'e' :: rest | 'E' :: rest =>
    let (negative, digits) := match rest with
      | '-' :: rest => (true, rest)
      | '+' :: rest => (false, rest)
      | rest => (false, rest)
    match takeDigits 10 digits with
    | ([], _) => (0, cs)
    | (ds, after) =>
      let n : Int := min (digitsNumber 10 ds) 30
      (if negative then -n else n, after)
  | cs => (0, cs)

/-- A duration in milliseconds. -/
def duration? (arg : Bytes) : Option Nat :=
  let cs := (arg.dropWhile isSpaceByte).map charOf
  let cs := if cs.head? == some '+' then cs.drop 1 else cs
  if ["inf", "infinity"].contains (String.ofList (cs.map Char.toLower)) then
    some endlessTime
  else
    let (whole, rest) := takeDigits 10 cs
    let (fraction, rest) := match rest with
      | '.' :: rest => takeDigits 10 rest
      | rest => ([], rest)
    if whole.isEmpty && fraction.isEmpty then none
    else
      let (power, rest) := takeExponent rest
      let shift : Int := power + 3 - fraction.length
      let n := digitsNumber 10 (whole ++ fraction)
      let ms := if 0 ≤ shift then n * Nat.pow 10 shift.toNat else n / Nat.pow 10 (-shift).toNat
      match rest with
      | [] | ['s'] => some ms
      | ['m'] => some (ms * 60)
      | ['h'] => some (ms * 3600)
      | ['d'] => some (ms * 86400)
      | _ => none

/-- Lets time pass. -/
def sleep (program : String) (args : List Bytes) : State → State :=
  withProgramOptions program [] false args fun _ args s =>
    let wrong := args.filter fun a => (duration? a).isNone
    if args.isEmpty then misused program "missing operand" s
    else if wrong.isEmpty then
      { s with elapsed := (args.filterMap duration?).foldl (· + ·) s.elapsed }
    else
      misused program (("\n" ++ program ++ ": ").intercalate (wrong.map fun a =>
        "invalid time interval " ++ quotedVisible a)) s

end LintHub.Shell
