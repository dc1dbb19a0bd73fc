import LintHub.Program
import LintHub.Shell.Bytes
import LintHub.Shell.Syntax

set_option autoImplicit false

/-!
# The state of a shell

A shell's state holds its variables and functions, its streams, and what was written so far to each
channel; channel 0 is the output of the program and channel 1 its errors, further ones collect the
output of parts. What is left of an input is shared by all who read it. A command that does not end
in the ordinary way leaves an `Escape`, and nothing more is carried out until it is met.
-/

namespace LintHub.Shell

/-- What a stream is connected to. -/
inductive Handle where
  | channel (n : Nat)
  /-- An input, with its size where it is a file. -/
  | input (n : Nat) (size : Option Nat)
  | file (place : Place)
  | lost
  deriving DecidableEq, Repr

/-- The streams of a command by their numbers; those that are closed are not there. -/
abbrev Streams := List (Nat × Handle)

/-- A variable. -/
structure Variable where
  /-- The value, if it has been given one. -/
  value : Option Bytes
  /-- Programs get to know it. -/
  exported : Bool
  readOnly : Bool
  deriving DecidableEq, Repr

/-- A function. -/
structure Function where
  line : Nat
  body : Command

/-- Why the commands that follow are not carried out. -/
inductive Escape where
  /-- So many loops are left. -/
  | leaveLoop (depth : Nat)
  /-- So many loops are left, and the last of them goes on with its next round. -/
  | nextRound (depth : Nat)
  | leaveFunction
  | leaveShell
  /-- A complaint ends the shell. -/
  | failure
  deriving DecidableEq, Repr

/-- A process in the background. -/
structure Job where
  number : Nat
  status : Nat
  /-- When it ends. -/
  ends : Nat
  deriving DecidableEq, Repr

/-- The state of a shell. -/
structure State where
  files : Files
  directory : Place
  bindings : List (String × Variable)
  functions : List (String × Function)
  parameters : List Bytes
  /-- The name by which the shell was called. -/
  name : Bytes
  /-- The status of the last command. -/
  status : Nat
  /-- The status of the last script whose output was put into the command at work. -/
  outputStatus : Option Nat
  /-- The status before what is carried out at a signal or at the end. -/
  statusBefore : Option Nat
  /-- The letters of the options that are set. -/
  options : List Char
  /-- The line of the command at work. -/
  line : Nat
  /-- The line up to which the script was read. -/
  scriptLine : Nat
  /-- The name of the shell's own command at work, which stands in front of complaints. -/
  commandName : Option String
  /-- The documents of the scripts by their numbers. -/
  documents : List Word
  streams : Streams
  /-- What is left of each input. -/
  inputs : List Bytes
  /-- What was written to each channel, the last piece first. -/
  channels : List (List Bytes)
  /-- Milliseconds that have passed. -/
  elapsed : Nat
  /-- Until when processes in the background hold the output of the program. -/
  held : Nat
  /-- What is carried out at a signal; the number 0 stands for the end. -/
  traps : List (Nat × Bytes)
  jobs : List Job
  /-- The number of loops around the command at work. -/
  loopDepth : Nat
  /-- The variables that each function around the command keeps for itself, as they were. -/
  locals : List (List (String × Option Variable))
  /-- How far the options in the argument at work were looked at. -/
  optionOffset : Nat
  escape : Option Escape
  /-- This is a part of a shell that waits for it. -/
  isPart : Bool
  /-- The signals that were sent to the shell of which this is a part. -/
  sent : List Nat
  /-- The signal that ended the process. -/
  killed : Option Nat

/-- The process number that a shell has. -/
def processNumber : Nat := 4242

/-- What has not ended after so many milliseconds is taken to go on for ever. -/
def endlessTime : Nat := 1000000000000

namespace State

/-- Nothing more is carried out. -/
def isOver (s : State) : Bool := s.escape.isSome || s.killed.isSome

/-- Ends a command with a status. -/
def finish (status : Nat) (s : State) : State := { s with status }

/-- An option is set. -/
def has (option : Char) (s : State) : Bool := s.options.contains option

/-! ## Streams -/

/-- What a stream is connected to, if it is open. -/
def handle? (stream : Nat) (s : State) : Option Handle :=
  (s.streams.find? (·.1 == stream)).map (·.2)

/-- Connects a stream, or closes it. -/
def connect (stream : Nat) (h : Option Handle) (s : State) : State :=
  let others := s.streams.filter (·.1 != stream)
  { s with streams := match h with
      | some h => (stream, h) :: others
      | none => others }

/-- Writes bytes to a stream. -/
def write (stream : Nat) (bs : Bytes) (s : State) : State :=
  match s.handle? stream with
  | some (.channel n) => { s with channels := s.channels.modify n (bs :: ·) }
  | some (.file place) =>
    match s.files.node? place with
    | some (.file content) => { s with files := s.files.set place (.file (content ++ bs)) }
    | _ => s
  | _ => s

/-- What was written to a channel. -/
def written (n : Nat) (s : State) : Bytes := (s.channels[n]?.getD []).reverse.flatten

/-- Writes to the output. -/
def print (bs : Bytes) (s : State) : State := s.write 1 bs

/-- Writes text to the output. -/
def printText (text : String) (s : State) : State := s.print (bytesOf text)

/-- Writes text to the errors. -/
def warn (text : String) (s : State) : State := s.write 2 (bytesOf text)

/-- What is left of the standard input. -/
def input (s : State) : Bytes :=
  match s.handle? 0 with
  | some (.input n _) => s.inputs[n]?.getD []
  | _ => []

/-- Leaves that much of the standard input. -/
def leaveInput (bs : Bytes) (s : State) : State :=
  match s.handle? 0 with
  | some (.input n _) => { s with inputs := s.inputs.set n bs }
  | _ => s

/-- Takes the whole standard input. -/
def takeInput (s : State) : State × Bytes := (s.leaveInput [], s.input)

/-- A new input that holds bytes. -/
def newInput (bs : Bytes) (size : Option Nat) (s : State) : State × Handle :=
  ({ s with inputs := s.inputs ++ [bs] }, .input s.inputs.length size)

/-! ## Complaints -/

/-- Says something in the shell's own name. -/
def say (text : String) (s : State) : State :=
  let command := (s.commandName.map fun n => n ++ ": ").getD ""
  (s.write 2 s.name).warn (": " ++ toString s.line ++ ": " ++ command ++ text ++ "\n")

/-- Complains, and ends a command with a status. -/
def complain (text : String) (status : Nat) (s : State) : State := (s.say text).finish status

/-- Complains about something that ends the shell. -/
def abort (text : String) (s : State) : State :=
  { s.complain text 2 with escape := some .failure }

/-! ## Variables -/

/-- A variable, if there is one of the name. -/
def lookup? (name : String) (s : State) : Option Variable :=
  (s.bindings.find? (·.1 == name)).map (·.2)

/-- Puts a variable in place of what there was. -/
def setVariable (name : String) (v : Option Variable) (s : State) : State :=
  let others := s.bindings.filter (·.1 != name)
  { s with bindings := match v with
      | some v => others ++ [(name, v)]
      | none => others }

/-- The value of a variable, if it is set. -/
def value? (name : String) (s : State) : Option Bytes := (s.lookup? name).bind Variable.value

/-- Gives a variable a value, unless it is read only. -/
def assign? (name : String) (value : Bytes) (s : State) : Option State :=
  let v := (s.lookup? name).getD ⟨none, false, false⟩
  if v.readOnly then none
  else
    some (s.setVariable name
      (some { v with value := some value, exported := v.exported || s.has 'a' }))

/-- What is said about an argument that is no number. -/
def illegalNumber (arg : Bytes) : String := "Illegal number: " ++ textOf arg

/-- Gives a variable a value; trying that with one that is read only ends the shell. A new value of
`OPTIND` is a number, and the options of arguments are looked at afresh. -/
def assign (name : String) (value : Bytes) (s : State) : State :=
  match s.assign? name value with
  | none => s.abort (name ++ ": is read only")
  | some t =>
    if name != "OPTIND" then t
    else if (natural? value).isNone then s.abort (illegalNumber value)
    else { t with optionOffset := 0 }

/-- The value of a variable, empty where it is not set. -/
def valueOf (name : String) (s : State) : Bytes := (s.value? name).getD []

/-- The bytes that separate fields. -/
def separators (s : State) : Bytes := (s.value? "IFS").getD [32, 9, 10]

/-- The values of the parameters joined into one. -/
def joinedParameters (s : State) : Bytes := (s.separators.take 1).intercalate s.parameters

/-- The value of a parameter, if it is set. -/
def parameter? (name : String) (s : State) : Option Bytes :=
  match name with
  | "?" => some (bytesOf (toString s.status))
  | "$" => some (bytesOf (toString processNumber))
  | "#" => some (bytesOf (toString s.parameters.length))
  | "!" => s.jobs.getLast?.map fun j => bytesOf (toString j.number)
  | "-" => some (bytesOf (String.ofList s.options))
  | "@" | "*" => if s.parameters.isEmpty then none else some s.joinedParameters
  | "0" => some s.name
  | name =>
    match natural? (bytesOf name) with
    | some n => if n == 0 then some s.name else s.parameters[n - 1]?
    | none => s.value? name

/-! ## Files -/

/-- The path of an argument. -/
def pathOf (arg : Bytes) : Path := ⟨arg⟩

/-- The bytes of an argument that names a file, or of the input. -/
def readArgument (arg : Bytes) (s : State) : State × Except FileError Bytes :=
  if arg == [45] then
    let (s, bs) := s.takeInput
    (s, .ok bs)
  else (s, s.files.read s.directory (pathOf arg))

/-- The path of the directory in which the shell works. -/
def directoryBytes (s : State) : Bytes := 47 :: [(47 : UInt8)].intercalate s.directory

end State

end LintHub.Shell
