import LintHub.Shell.State

set_option autoImplicit false

/-!
# Arguments of the shell's own commands

Options stand in front of the other arguments, and numbers are written in base 10. What is wrong
with them ends a special command, and with it the shell.
-/

namespace LintHub.Shell

namespace Builtin

/-- What is said about an option that is not known. -/
def illegalOption (c : Char) : String := "Illegal option -" ++ c.toString

/-- The options of a command and its other arguments; those in `withValue` take a value. What is
wrong with the first one is said. -/
def takeOptions (known withValue : List Char) : Nat → List Bytes →
    Except String (List (Char × Bytes) × List Bytes)
  | 0, args => .ok ([], args)
  | _ + 1, [] => .ok ([], [])
  | fuel + 1, arg :: rest =>
    match arg.map charOf with
    | ['-', '-'] => .ok ([], rest)
    | '-' :: c :: more =>
      if withValue.contains c then
        match if more.isEmpty then rest else arg.drop 2 :: rest with
        | [] => .error ("No arg for -" ++ c.toString ++ " option")
        | value :: rest =>
          (takeOptions known withValue fuel rest).map fun x => ((c, value) :: x.1, x.2)
      else if known.contains c then
        let rest := if more.isEmpty then rest else (45 :: arg.drop 2) :: rest
        (takeOptions known withValue fuel rest).map fun x => ((c, []) :: x.1, x.2)
      else .error (illegalOption c)
    | _ => .ok ([], arg :: rest)

/-- A bound on the number of options. -/
def optionBound (args : List Bytes) : Nat := args.foldl (fun n a => n + a.length + 1) 1

/-- The number that an argument gives, if it is small enough. -/
def number? (arg : Bytes) : Option Nat :=
  match integer? arg with
  | some (.ofNat n) => if n < Nat.pow 2 31 then some n else none
  | _ => none

/-- Goes on with the options of a command, or complains. -/
def withOptions (known withValue : List Char) (args : List Bytes)
    (f : List (Char × Bytes) → List Bytes → State → State) (s : State) : State :=
  match takeOptions known withValue (optionBound args) args with
  | .error e => s.abort e
  | .ok (options, args) => f options args s

/-- Goes on with the number that the first argument gives, or with a number of its own. -/
def withNumber (own : Nat) (args : List Bytes) (f : Nat → State → State) (s : State) : State :=
  match args with
  | [] => f own s
  | arg :: _ =>
    match number? arg with
    | some n => f n s
    | none => s.abort (State.illegalNumber arg)

end Builtin

end LintHub.Shell
