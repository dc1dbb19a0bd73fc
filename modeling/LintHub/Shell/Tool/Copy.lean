import LintHub.Shell.Tool.Arguments

set_option autoImplicit false

/-!
# Copying files

What `cat` does: it copies files to the output, and numbers lines or shows what cannot be seen. A
line goes on where one file ends in the middle of it.
-/

namespace LintHub.Shell

/-- How `cat` shows what it copies. -/
structure CopyStyle where
  numbers : Bool
  /-- Empty lines get no numbers. -/
  numbersNonblank : Bool
  squeezes : Bool
  showsEnds : Bool
  showsTabs : Bool
  showsOthers : Bool
  deriving DecidableEq, Repr

/-- How `cat` shows what it copies, given the letters of its options. -/
def CopyStyle.ofLetters (options : List Char) : CopyStyle :=
  let has (letters : List Char) : Bool := letters.any options.contains
  { numbers := has ['n', 'b']
    numbersNonblank := has ['b']
    squeezes := has ['s']
    showsEnds := has ['A', 'e', 'E']
    showsTabs := has ['A', 't', 'T']
    showsOthers := has ['A', 'e', 't', 'v'] }

/-- A byte other than a newline as it is copied. -/
def CopyStyle.show (y : CopyStyle) (next : Option UInt8) (b : UInt8) : Bytes :=
  let low (b : UInt8) : Bytes :=
    if b < 32 then [94, b + 64] else if b == 127 then [94, 63] else [b]
  if b == 9 then if y.showsTabs then low b else [b]
  else if y.showsOthers then if b < 128 then low b else [77, 45] ++ low (b - 128)
  else if b == 13 && y.showsEnds && next == some 10 then low b
  else [b]

/-- How far a copy has come. -/
structure CopyPoint where
  /-- The number of the last line that got one. -/
  number : Nat
  /-- Within a line this is 0, at its start one more than the empty lines before it, up to 3. -/
  run : Nat
  deriving DecidableEq, Repr

/-- The number of the next line, as it stands in front of the line. -/
def CopyPoint.label (x : CopyPoint) : Bytes :=
  let ds := bytesOf (toString (x.number + 1))
  List.replicate (6 - ds.length) 32 ++ ds ++ [9]

/-- Copies bytes from a point on. -/
def copyFrom (y : CopyStyle) : CopyPoint → Bytes → CopyPoint × Bytes
  | x, [] => (x, [])
  | x, b :: rest =>
    let atNewline := b == 10
    let run := if atNewline then min 3 (x.run + 1) else 0
    let drops := atNewline && run == 3 && y.squeezes
    let labels := !drops && y.numbers &&
      (if atNewline then 2 ≤ run && !y.numbersNonblank else 1 ≤ x.run)
    let front := if labels then x.label else []
    let shown := if drops then []
      else if atNewline then if y.showsEnds then [36, 10] else [10]
      else y.show rest.head? b
    let (x, more) := copyFrom y ⟨if labels then x.number + 1 else x.number, run⟩ rest
    (x, front ++ shown ++ more)

/-- The output is a file that an argument names, and there is something in it. -/
def writesTo (name : Bytes) (s : State) : Bool :=
  match s.handle? 1, s.files.locate s.directory (State.pathOf name) with
  | some (.file place), .ok other =>
    name != [45] && place == other &&
      match s.files.node? place with
      | some (.file content) => !content.isEmpty
      | _ => false
  | _, _ => false

/-- Copies one file. -/
def copyFile (program : String) (y : CopyStyle) (x : State × CopyPoint) (name : Bytes) :
    State × CopyPoint :=
  if writesTo name x.1 then (fileComplaint program name "input file is output file" x.1, x.2)
  else
    match x.1.readArgument name with
    | (s, .error e) => (fileComplaint program name e.reason s, x.2)
    | (s, .ok bs) =>
      let (p, out) := copyFrom y x.2 bs
      (s.print out, p)

/-- The options of `cat`. -/
def catOptions : OptionTable :=
  [('b', "number-nonblank"), ('n', "number"), ('s', "squeeze-blank"), ('v', "show-nonprinting"),
   ('E', "show-ends"), ('T', "show-tabs"), ('A', "show-all"), ('e', ""), ('t', ""), ('u', "")]

/-- Copies files to the output. -/
def cat (program : String) (args : List Bytes) : State → State :=
  withProgramOptions program catOptions false args fun options names s =>
    ((if names.isEmpty then [[45]] else names).foldl (copyFile program (.ofLetters options))
      (s, ⟨0, 1⟩)).1

end LintHub.Shell
