import LintHub.Shell.Builtin.Variables
import LintHub.Shell.Fields

set_option autoImplicit false

/-!
# Commands that take input apart

A line of the input is split among variables, and arguments are looked through for options.
-/

namespace LintHub.Shell

namespace Builtin

/-! ## Reading a line -/

/-- The cells of a line and what follows it. A backslash takes the meaning of what follows it, and
joins lines, unless the line is taken as it is. -/
def takeLine (raw : Bool) : Bytes → List Cell × Option Bytes
  | [] => ([], none)
  | 10 :: rest => ([], some rest)
  | 92 :: b :: rest =>
    if raw then
      match takeLine raw (b :: rest) with
      | (cells, after) => (.byte 92 false true :: cells, after)
    else if b == 10 then takeLine raw rest
    else
      match takeLine raw rest with
      | (cells, after) => (.byte b true false :: cells, after)
  | b :: rest =>
    match takeLine raw rest with
    | (cells, after) => (.byte b false true :: cells, after)

/-- The cell is a separator. -/
def isSeparator (separators : Bytes) : Cell → Bool
  | .byte b _ splits => splits && separators.contains b
  | _ => false

/-- The cell is a blank separator. -/
def isBlankSeparator (separators : Bytes) (c : Cell) : Bool :=
  match c with
  | .byte b _ _ => isSeparator separators c && (b == 32 || b == 9 || b == 10)
  | _ => false

/-- Cells without one run of separators at their start, in which at most one is not blank. -/
def dropSeparators (separators : Bytes) (cells : List Cell) : List Cell :=
  let blank := isBlankSeparator separators
  match cells.dropWhile blank with
  | c :: rest => if isSeparator separators c then rest.dropWhile blank else c :: rest
  | [] => []

/-- Gives a variable a value, if it can have such a name. -/
def assignNamed (name : String) (value : Bytes) (s : State) : State :=
  if isName name.toList then s.assign name value
  else s.abort ((takeAssignment (bytesOf name)).1 ++ ": bad variable name")

/-- Cells without the blank separators at their end. What follows these counts only if something
in it is neither a separator nor taken as it is. -/
def dropEnd (separators : Bytes) (cells : List Cell) : List Cell :=
  let counts (c : Cell) : Bool := c matches .byte _ _ true && !isSeparator separators c
  let ending := cells.reverse.takeWhile (!counts ·)
  let kept := ending.reverse.takeWhile (!isBlankSeparator separators ·)
  cells.take (cells.length - ending.length + kept.length)

/-- Gives variables the fields of a line, the last of them all that is left. -/
def assignFields : List String → List Cell → State → State
  | [], _, s => s
  | [name], cells, s =>
    let cells := cells.dropWhile (isBlankSeparator s.separators)
    let field := cells.takeWhile (!isSeparator s.separators ·)
    let value := if (dropSeparators s.separators (cells.drop field.length)).isEmpty then field
      else dropEnd s.separators cells
    assignNamed name (Cell.bytes value) s
  | name :: rest, cells, s =>
    let cells := cells.dropWhile (isBlankSeparator s.separators)
    let field := cells.takeWhile (!isSeparator s.separators ·)
    let after := dropSeparators s.separators (cells.drop field.length)
    let s := assignNamed name (Cell.bytes field) s
    if s.isOver then s else assignFields rest after s

/-- Reads a line of the input into variables. -/
def read (args : List Bytes) : State → State :=
  withOptions ['r'] ['p'] args fun options names s =>
    if names.isEmpty then s.complain "arg count" 2
    else
      let (cells, after) := takeLine (options.any (·.1 == 'r')) s.input
      let s := (s.leaveInput (after.getD [])).finish (if after.isSome then 0 else 1)
      assignFields (names.map textOf) cells s

/-! ## Options of a script -/

/-- The next option of arguments, from an offset into the first of them on. -/
structure OptionStep where
  letter : String
  argument : Option Bytes
  complaint : Option String
  /-- How many arguments are used up, and the offset into the last one if it is not. -/
  used : Nat
  offset : Nat
  found : Bool

/-- An option whose letter was found in an argument, with what follows in it. -/
def stepAt (wanted : List Char) (c : Char) (more : Bytes) (rest : List Bytes) (used offset : Nat) :
    OptionStep :=
  let silent := wanted.head? == some ':'
  let here : Nat := if more.isEmpty then 0 else offset + 1
  match wanted.dropWhile (· != c) with
  | _ :: after =>
    if after.head? == some ':' then
      if !more.isEmpty then ⟨c.toString, some more, none, used, 0, true⟩
      else
        match rest with
        | value :: _ => ⟨c.toString, some value, none, used + 1, 0, true⟩
        | [] =>
          if silent then ⟨":", some [byteOf c], none, used, 0, true⟩
          else ⟨"?", none, some ("No arg for -" ++ c.toString ++ " option\n"), used, 0, true⟩
    else ⟨c.toString, some [], none, used, here, true⟩
  | [] =>
    if silent then ⟨"?", some [byteOf c], none, used, here, true⟩
    else ⟨"?", none, some ("Illegal option -" ++ c.toString ++ "\n"), used, here, true⟩

/-- The next option of arguments. -/
def nextOption (wanted : List Char) (offset : Nat) (args : List Bytes) : OptionStep :=
  match args with
  | [] => ⟨"?", some [], none, 0, 0, false⟩
  | arg :: rest =>
    if offset != 0 && offset < arg.length then
      stepAt wanted (charOf (arg.getD offset 0)) (arg.drop (offset + 1)) rest 1 offset
    else
      match arg with
      | [45, 45] => ⟨"?", some [], none, 1, 0, false⟩
      | 45 :: b :: more => stepAt wanted (charOf b) more rest 1 1
      | _ => ⟨"?", some [], none, 0, 0, false⟩

/-- Takes the next option of the parameters or of given arguments. -/
def getOption (args : List Bytes) (s : State) : State :=
  match args with
  | wanted :: name :: given =>
    let all := if given.isEmpty then s.parameters else given
    let index := max 1 ((natural? (s.valueOf "OPTIND")).getD 1)
    let offset := s.optionOffset
    let start := if offset == 0 then index - 1 else index - 2
    let step := nextOption (wanted.map charOf) offset (all.drop start)
    let s := match step.complaint with
      | some text => s.warn text
      | none => s
    let s := match step.argument with
      | some a => if step.found then s.assign "OPTARG" a else s
      | none => s.setVariable "OPTARG" none
    let s := s.assign "OPTIND" (bytesOf (toString (start + step.used + 1)))
    let s := assignNamed (textOf name) (bytesOf step.letter) s
    if s.isOver then s
    else { s.finish (if step.found then 0 else 1) with optionOffset := step.offset }
  | _ => s.complain "Usage: getopts optstring var [arg...]" 2

end Builtin

end LintHub.Shell
