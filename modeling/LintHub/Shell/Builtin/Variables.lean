import LintHub.Shell.Builtin.Arguments
import LintHub.Shell.Token

set_option autoImplicit false

/-!
# Commands about variables

Variables are listed so that a script can read them, marked, kept for a function, and forgotten.
-/

namespace LintHub.Shell

namespace Builtin

/-! ## Values in quotes -/

/-- A value in single quotes, as a script can read it. -/
def singleQuoted (bs : Bytes) : Bytes :=
  bytesOf "'" ++ bs.flatMap (fun b => if b == 39 then bytesOf "'\"'\"'" else [b]) ++ bytesOf "'"

/-- A variable and its value on a line. -/
def variableLine (front : String) (v : String × Variable) : Bytes :=
  bytesOf (front ++ v.1) ++
    ((v.2.value.map fun value => 61 :: singleQuoted value).getD []) ++ [10]

/-- Some variables on lines, in order. -/
def listVariables (front : String) (p : Variable → Bool) (s : State) : State :=
  let l := (s.bindings.filter fun v => p v.2).mergeSort fun v w => v.1 ≤ w.1
  (s.print (l.flatMap (variableLine front))).finish 0

/-! ## Variables -/

/-- The name and the value in an argument. -/
def takeAssignment (arg : Bytes) : String × Option Bytes :=
  let (name, value) := splitAtByte (· == 61) arg
  (textOf name, value)

/-- Marks variables, giving them values where there are some. -/
def mark (mark : Variable → Variable) (names : List Bytes) (s : State) : State :=
  names.foldl (fun s arg =>
    if s.isOver then s
    else
      let (name, value) := takeAssignment arg
      if !isName name.toList then s.abort (name ++ ": bad variable name")
      else
        let s := match value with
          | some v => s.assign name v
          | none => s
        s.setVariable name (some (mark ((s.lookup? name).getD ⟨none, false, false⟩))))
    (s.finish 0)

/-- Lets programs know variables. -/
def exportNames (args : List Bytes) : State → State :=
  withOptions ['p'] [] args fun options names s =>
    if names.isEmpty || !options.isEmpty then listVariables "export " Variable.exported s
    else mark (fun v => { v with exported := true }) names s

/-- Makes variables read only. -/
def makeReadOnly (args : List Bytes) : State → State :=
  withOptions ['p'] [] args fun options names s =>
    if names.isEmpty || !options.isEmpty then listVariables "readonly " Variable.readOnly s
    else mark (fun v => { v with readOnly := true }) names s

/-- Keeps variables for the function at work: they get their values back behind it. -/
def keepLocal (args : List Bytes) (s : State) : State :=
  match s.locals with
  | [] => s.abort "not in a function"
  | _ :: _ =>
    args.foldl (fun s arg =>
      let (name, value) := takeAssignment arg
      let s := match s.locals with
        | frame :: rest =>
          if frame.any (·.1 == name) then s
          else { s with locals := ((name, s.lookup? name) :: frame) :: rest }
        | [] => s
      match value with
      | some v => s.assign name v
      | none => s) (s.finish 0)

/-- Forgets variables or functions. -/
def unset (args : List Bytes) : State → State :=
  withOptions ['v', 'f'] [] args fun options names s =>
    names.foldl (fun s arg =>
      if s.isOver then s
      else
        let name := textOf arg
        if options.any (·.1 == 'f') then
          { s with functions := s.functions.filter (·.1 != name) }
        else if !isName name.toList then s.abort (name ++ ": bad variable name")
        else if (s.lookup? name).any Variable.readOnly then s.abort (name ++ ": is read only")
        else if name == "OPTIND" then s.abort (State.illegalNumber [])
        else s.setVariable name none) (s.finish 0)

end Builtin

end LintHub.Shell
