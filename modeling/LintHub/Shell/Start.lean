import LintHub.Shell.Builtins
import LintHub.Shell.Script
import LintHub.Shell.Tool.Copy
import LintHub.Shell.Tool.Count
import LintHub.Shell.Tool.Transliterate
import LintHub.Shell.Tool.Wait

set_option autoImplicit false

/-!
# Starting programs from a shell

A program changes files and streams and leaves a status. The shell is such a program, too: it starts
with the variables that are exported.
-/

namespace LintHub.Shell

namespace Run

/-- Carries out a program other than the shell, which is called by some name. -/
def tool (name called : String) (args : List Bytes) (s : State) : State :=
  let s := s.finish 0
  match name with
  | "cat" => cat called args s
  | "tr" => tr called args s
  | "wc" => wc called args s
  | "sleep" => sleep called args s
  | "echo" => s.print (plainEcho false false args)
  | name => (Builtin.run? name args s).getD s

/-- The variables that a shell sets when it is started, given those that it got to know. -/
def startVariables (s : State) (known : List (String × Variable)) : List (String × Variable) :=
  let own (name text : String) : String × Variable := (name, ⟨some (bytesOf text), false, false⟩)
  let set := [own "IFS" " \t\n", own "OPTIND" "1", own "PPID" (toString (processNumber - 1)),
    ("PWD", ⟨some s.directoryBytes, true, false⟩)]
  let usual := [own "PS1" "# ", own "PS2" "> ", own "PS4" "+ "]
  known.filter (fun v => !set.any (·.1 == v.1)) ++ set ++
    usual.filter (fun v => !known.any (·.1 == v.1))

/-- The state of a shell that another one starts: it knows the variables that are exported. -/
def child (name : Bytes) (s : State) : State :=
  let known := (s.bindings.filter (·.2.exported)).map fun v =>
    (v.1, { v.2 with readOnly := false })
  { s with
    bindings := startVariables s known
    functions := []
    parameters := []
    name := name
    status := 0
    outputStatus := none
    statusBefore := none
    options := []
    line := 0
    commandName := none
    documents := []
    traps := s.traps.filter (·.2.isEmpty)
    jobs := []
    loopDepth := 0
    locals := []
    optionOffset := 0
    escape := none
    isPart := false
    sent := []
    killed := none }

/-- What the arguments of a shell ask for. -/
structure Request where
  /-- The first argument is a script. -/
  fromArgument : Bool
  /-- The script is the input. -/
  fromInput : Bool

/-- Reads the options of a shell, and answers the arguments that are left. -/
def shellOptions : Nat → Request → List Bytes → State →
    Except (State × String) (State × Request × List Bytes)
  | 0, q, args, s => .ok (s, q, args)
  | _ + 1, q, [], s => .ok (s, q, [])
  | fuel + 1, q, arg :: rest, s =>
    match arg.map charOf with
    | ['-', '-'] | ['-'] => .ok (s, q, rest)
    | sign :: letters =>
      if sign != '-' && sign != '+' then .ok (s, q, arg :: rest)
      else
        let q : Request :=
          ⟨q.fromArgument || letters.contains 'c', q.fromInput || letters.contains 's'⟩
        match Builtin.setLetters (sign == '-') (letters.filter fun c => c != 'c' && c != 'l')
            rest s with
        | .error e => .error e
        | .ok (s, rest) => shellOptions fuel q rest s
    | [] => .ok (s, q, arg :: rest)

/-- The script in a file; a directory holds none. What is wrong is said. -/
def scriptText (file : Bytes) (s : State) : Except String Bytes :=
  match s.files.read s.directory (State.pathOf file) with
  | .ok text => .ok text
  | .error .isDirectory => .ok []
  | .error e =>
    let reason := if e == .notFound || e == .notDirectory then "No such file" else e.reason
    .error ("cannot open " ++ textOf file ++ ": " ++ reason)

/-- Carries out the script of a shell that has been started. -/
def started (r : Runner) (parameters : List Bytes) (text : Bytes) (s : State) : State :=
  endShell r (script r false text { s with parameters, line := 1 })

/-- Carries out a shell from its arguments to its end. -/
def shell (r : Runner) (called : Bytes) (args : List Bytes) (s : State) : State :=
  let s := child called s
  match shellOptions (args.length + 1) ⟨false, false⟩ args s with
  | .error (s, e) => s.complain e 2
  | .ok (s, q, args) =>
    if q.fromArgument then
      match args with
      | [] => s.complain "-c requires an argument" 2
      | text :: rest => started r (rest.drop 1) text { s with name := rest.headD called }
    else
      match if q.fromInput then [] else args with
      | [] =>
        let (s, text) := s.takeInput
        started r args text s
      | file :: rest =>
        match scriptText file s with
        | .ok text => started r rest text { s with name := file }
        | .error complaint => s.complain complaint 2

/-- What a shell says about a program that a signal ended. -/
def deathNotice (signal : Nat) : Option String :=
  match signal with
  | 1 => some "Hangup"
  | 3 => some "Quit"
  | 6 => some "Aborted"
  | 9 => some "Killed"
  | 10 => some "User defined signal 1"
  | 11 => some "Segmentation fault"
  | 12 => some "User defined signal 2"
  | 14 => some "Alarm clock"
  | 15 => some "Terminated"
  | _ => none

/-- What remains of a program that has ended, for the shell that started it. -/
def afterProgram (t s : State) : State :=
  let s := { s with
    files := t.files
    inputs := t.inputs
    channels := t.channels
    elapsed := t.elapsed
    held := t.held
    status := t.status % 256 }
  match t.killed with
  | none => s
  | some n =>
    let s := s.finish (128 + n)
    match deathNotice n with
    | some notice => s.warn (notice ++ "\n")
    | none => s

/-- Why a program of a name cannot be started. -/
def missing (files : Files) (directory : Place) (name : String) : FileError :=
  if name.toList.contains '/' then
    match files.lookup directory (.ofText name) with
    | .ok _ => .permissionDenied
    | .error e => e
  else if name == "." || name == ".." then .permissionDenied
  else if 255 < name.utf8ByteSize then .nameTooLong
  else .notFound

/-- The program that a shell finds under a name. -/
def found? (name : String) (s : State) : Option String :=
  if name.toList.contains '/' then Builtin.programAt? name
  else (Builtin.programPath? name s).map fun _ => name

/-- Carries out a program; the shell is one, too. -/
def program (r : Runner) (head : Bytes) (args : List Bytes) (s : State) : State :=
  let name := textOf head
  match found? name s with
  | some program =>
    if program == "sh" || program == "dash" then afterProgram (shell r head args s) s
    else afterProgram (tool program name args (child head s)) s
  | none =>
    let isPath := name.toList.contains '/'
    let directories := Builtin.searchedDirectories s
    let denied := if isPath then missing s.files s.directory name == .permissionDenied
      else if ["", ".", ".."].contains name then directories.any Builtin.holdsPrograms
      else directories.any fun d => Builtin.isThere (d ++ "/" ++ name) s
    let status := if denied && (isPath || s.commandName == some "exec") then 126 else 127
    s.complain (name ++ ": " ++ if denied then "Permission denied" else "not found") status

end Run

end LintHub.Shell
