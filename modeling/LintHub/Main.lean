import LintHub.Check.Run
import LintHub.Server.Frame
import LintHub.Server.Schedule
import LintHub.Shell.Launch

set_option autoImplicit false

/-!
# The program

The files that a command line names and the files beside its configuration are gathered from the
disk; everything else happens on the gathered files. A check prints its report. A server reads
calls, and answers each before it reads the next.
-/

namespace LintHub.Program

/-- The place of an absolute path. -/
def placeOf (text : String) : Place :=
  .ofTexts ((text.splitOn "/").filter fun piece => piece != "" && piece != ".")

/-- Gathers a file or a directory, if it is there. -/
def gather (text : String) (files : Files) : IO Files := do
  let here : IO.FS.DirEntry := ⟨"/", text⟩
  if ← here.path.isDir then
    return files.put (placeOf text) .directory
  match ← (IO.FS.readBinFile here.path).toBaseIO with
  | .ok bytes => return files.put (placeOf text) (.file bytes.toList)
  | .error _ => return files

/-- Gathers a directory and what stands directly in it. -/
def gatherBeside (text : String) (files : Files) : IO Files := do
  let here : IO.FS.DirEntry := ⟨"/", text⟩
  let files := (files.remove (placeOf text)).put (placeOf text) .directory
  match ← here.path.readDir.toBaseIO with
  | .ok entries =>
    let inside (e : IO.FS.DirEntry) : Path := (Path.ofText text).join (.ofText e.fileName)
    entries.foldlM (fun files e => gather (inside e).text files) files
  | .error _ => return files

/-- What a machine has before anything is gathered. -/
def bareMachine : Files := Files.empty.put (.ofTexts ["dev", "null"]) .sink

/-- The files that a command line needs, seen from the directory in which one works. -/
def workplaceOf (directory : String) (line : CommandLine) : IO Workplace := do
  let absolute (p : Path) : Path := (Path.ofText directory).join p
  let files ← gatherBeside directory bareMachine
  let files ← match line.config.bind fun p => (absolute p).parent? with
    | some p => gatherBeside p.text files
    | none => pure files
  let files ← match line.request with
    | .check named _ => named.foldlM (fun files p => gather (absolute p).text files) files
    | .serve => pure files
  return ⟨files, placeOf directory⟩

/-! ## Serving an editor -/

/-- The length of the next message; nothing at the end of the input. -/
partial def readHeader (input : IO.FS.Stream) (length : Option Nat) : IO (Option Nat) := do
  let line ← input.getLine
  if line.isEmpty then return none
  else if Server.endsHeader line then
    return some (length.getD 0)
  else readHeader input ((Server.announcedLength? line).or length)

/-- The bytes of a message, as far as the input goes. -/
partial def readBody (input : IO.FS.Stream) (length : Nat) (acc : List UInt8) :
    IO (List UInt8) := do
  if length ≤ acc.length then return acc
  let bytes ← input.read (length - acc.length).toUSize
  if bytes.isEmpty then return acc
  readBody input length (acc ++ bytes.toList)

/-- The directory that the editor works on, after a call. -/
def rootAfter (c : Server.Call) (w : Server.State) : Option Path :=
  match w.host.phase with
  | .uninitialized => (Server.rootOfParams c.params).toOption.join
  | _ => w.host.root

/-- Answers calls until the input ends or the editor says so. -/
partial def serve (input output : IO.FS.Stream) (w : Server.State) : IO Unit := do
  let some length ← readHeader input none | return
  let bytes ← readBody input length []
  let some call := Server.callOfBytes? bytes | serve input output w
  let w ← match rootAfter call w with
    | none => pure w
    | some p => do
      let files ← gatherBeside p.text w.host.machine.workplace.files
      pure (Server.modifyFiles (fun _ => files) w)
  let (w, responses) := Server.converse (Server.host Shell.launch) [call] w
  for v in Server.outgoing (responses.headD .none) w.host.told do
    output.putStr (Server.frame v)
  output.flush
  if w.host.phase == .exited then return
  serve input output w

end LintHub.Program

/-- Does what the command line asks. -/
def main (args : List String) : IO UInt32 := do
  let directory := (← IO.currentDir).toString
  match LintHub.CommandLine.parse args with
  | .error _ =>
    let e := LintHub.Check.ending LintHub.Shell.launch ⟨.empty, []⟩ args
    IO.print e.output
    return e.code.toUInt32
  | .ok line =>
    let w ← LintHub.Program.workplaceOf directory line
    match line.request with
    | .serve =>
      LintHub.Program.serve (← IO.getStdin) (← IO.getStdout) (LintHub.Server.new w)
      return 0
    | .check _ _ =>
      let e := LintHub.Check.ending LintHub.Shell.launch w args
      IO.print e.output
      IO.eprint e.complaints
      return e.code.toUInt32
