import LintHub.Shell.ByteSet
import LintHub.Shell.State

set_option autoImplicit false

/-!
# Arguments of programs

Options are letters or names, which may be cut short as long as they are clear. What is wrong with
the first of them is said, with a hint at the help. Names of files stand in quotes where a shell
would need some.
-/

namespace LintHub.Shell

/-- The options that a program knows: their letters and, where there are some, their names. -/
abbrev OptionTable := List (Char × String)

/-- The letter of the option that an argument names in full or by its start. -/
def namedOption (table : OptionTable) (arg : Bytes) : Except String Char :=
  let text := textOf arg
  let (start, value) := splitAtByte (· == 61) (arg.drop 2)
  let start := textOf start
  let found := table.filter fun o => !o.2.isEmpty && start.toList.isPrefixOf o.2.toList
  match found.find? (·.2 == start), found with
  | some o, _ | none, [o] =>
    if value.isSome then .error ("option '--" ++ o.2 ++ "' doesn't allow an argument")
    else .ok o.1
  | none, [] => .error ("unrecognized option '" ++ text ++ "'")
  | none, found =>
    .error ("option '" ++ text ++ "' is ambiguous; possibilities:" ++
      String.join (found.map fun o => " '--" ++ o.2 ++ "'"))

/-- The letters of the options among arguments, and the other arguments. Where the order counts, no
option stands behind another argument. -/
def programOptions (table : OptionTable) (inOrder : Bool) :
    List Bytes → Except String (List Char × List Bytes)
  | [] => .ok ([], [])
  | arg :: rest =>
    let others := programOptions table inOrder rest
    match arg.map charOf with
    | ['-', '-'] => .ok ([], rest)
    | '-' :: '-' :: _ => do
      let c ← namedOption table arg
      return (c :: (← others).1, (← others).2)
    | '-' :: c :: cs =>
      match (c :: cs).find? fun c => !table.any (·.1 == c) with
      | some c => .error ("invalid option -- '" ++ c.toString ++ "'")
      | none => others.map fun x => ((c :: cs) ++ x.1, x.2)
    | _ => if inOrder then .ok ([], arg :: rest) else others.map fun x => (x.1, arg :: x.2)

/-- Where a program says how it is called. -/
def helpHint (program : String) : String :=
  "Try '" ++ program ++ " --help' for more information.\n"

/-- A program says something. -/
def sayFor (program text : String) (s : State) : State := s.warn (program ++ ": " ++ text ++ "\n")

/-- A program complains about how it was called. -/
def misused (program text : String) (s : State) : State :=
  ((sayFor program text s).warn (helpHint program)).finish 1

/-- Goes on with the options and the other arguments of a program, or complains. -/
def withProgramOptions (program : String) (table : OptionTable) (inOrder : Bool)
    (args : List Bytes) (f : List Char → List Bytes → State → State) (s : State) : State :=
  match programOptions table inOrder args with
  | .error e => misused program e s
  | .ok (options, args) => f options args s

/-- A byte that means something to a shell, wherever it stands. -/
def isSpecialByte (b : UInt8) : Bool := "!\"$&()*;<=>?[\\^\x60|".toList.contains (charOf b)

/-- A name has to be put in quotes, so that a shell reads it as one. -/
def needsQuotes (name : Bytes) : Bool :=
  name.isEmpty || name == [123] || name == [125] || name.head? == some 35 ||
    name.head? == some 126 ||
    name.any fun b => isSpecialByte b || b == 32 || b == 39 || b == 58 || !isPrintable b

/-- The bytes of a name within single quotes; what cannot be seen is escaped. -/
def quotedBytes : Bool → Bytes → String
  | _, [] => "'"
  | escaping, b :: rest =>
    if !isPrintable b then
      (if escaping then "" else "'$'") ++ visible b ++ quotedBytes true rest
    else
      (if escaping then "''" else "") ++
        (if b == 39 then "'\\''" else (charOf b).toString) ++ quotedBytes false rest

/-- A name in quotes, where it needs some. -/
def quotedName (name : Bytes) : String :=
  if !needsQuotes name then textOf name
  else if name.contains 39 && name.all fun b => isPrintable b && !isSpecialByte b && b != 58 then
    "\"" ++ textOf name ++ "\""
  else "'" ++ quotedBytes false name

/-- A program complains about a file that it cannot use. -/
def fileComplaint (program : String) (name : Bytes) (reason : String) (s : State) : State :=
  (sayFor program (quotedName name ++ ": " ++ reason) s).finish 1

end LintHub.Shell
