import LintHub.Shell.Run

set_option autoImplicit false

/-!
# Starting programs

A program is run from an invocation to what it leaves behind. It is over when nobody holds its
output any more.
-/

namespace LintHub.Shell

/-- How deep commands nest at most. -/
def depthLimit : Nat := 20000

/-- Where programs are looked for. -/
def searchPath : String := "/usr/local/sbin:/usr/local/bin:/usr/sbin:/usr/bin:/sbin:/bin"

/-- The state in which a program starts: stream 0 is its input, 1 its output and 2 its errors. -/
def State.initial (w : Workplace) (name : String) (input : Bytes) : State where
  files := w.files
  directory := w.directory
  bindings :=
    [("PATH", ⟨some (bytesOf searchPath), true, false⟩)]
  functions := []
  parameters := []
  name := bytesOf name
  status := 0
  outputStatus := none
  statusBefore := none
  options := []
  line := 0
  scriptLine := 1
  commandName := none
  documents := []
  streams := [(0, .input 0 none), (1, .channel 0), (2, .channel 1)]
  inputs := [input]
  channels := [[], []]
  elapsed := 0
  held := 0
  traps := []
  jobs := []
  loopDepth := 0
  locals := []
  optionOffset := 0
  escape := none
  isPart := false
  sent := []
  killed := none

/-- What a program left behind that ended in a state. -/
def State.completion (s : State) : Completion :=
  ⟨match s.killed with
    | some n => .killed n
    | none => .exited (s.status % 256),
    s.written 0, s.written 1, max s.elapsed s.held⟩

/-- Starts a program in a directory that exists. -/
def launchIn (w : Workplace) (i : Invocation) : Files × Except FileError Completion :=
  let args := i.args.map bytesOf
  let s := State.initial w i.program i.input
  let finish (t : State) : Files × Except FileError Completion := (t.files, .ok t.completion)
  let found := if i.program.toList.contains '/' then Builtin.programAt? i.program
    else Builtin.programs.find? (· == i.program)
  match found with
  | some program =>
    if program == "sh" || program == "dash" then
      finish (Run.shell (run depthLimit) (bytesOf i.program) args s)
    else finish (Run.tool program i.program args s)
  | none => (w.files, .error (Run.missing w.files w.directory i.program))

/-- Starts a program. -/
def launch : Launcher := fun w i =>
  if i.program.toList.contains '\x00' || i.args.any fun a => a.toList.contains '\x00' then
    (w.files, .error .nulInArgument)
  else
    match i.directory with
    | none => launchIn w i
    | some p =>
      match w.files.locate w.directory p with
      | .error e => (w.files, .error e)
      | .ok place =>
        match w.files.node? place with
        | some .directory => launchIn { w with directory := place } i
        | some _ => (w.files, .error .notDirectory)
        | none => (w.files, .error .notFound)

end LintHub.Shell
