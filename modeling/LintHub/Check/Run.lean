import LintHub.Check.CommandLine
import LintHub.Config.File
import LintHub.Engine.Machine

set_option autoImplicit false

/-!
# Checking files

A check opens every file in turn, runs the analyzers of both kinds on it and waits for them. All
files stay open to the end, so that the report holds what is then known of each. Both runs of a file
are under way at once, and their commands take as long as they take: in which order things happen is
left open, and whatever is shown of a check is shown of it for every `Order`. The program that is
run here takes one of them (`soonest`).
-/

namespace LintHub.Check

/-- What a check keeps beside the engine. -/
structure Desk where
  machine : Machine
  notifications : List Notification

/-- The state of a check; its one subscriber takes down notifications. -/
abbrev State := World Unit Desk

/-- The machine of a desk. -/
def deskMachine : MachineAccess Desk :=
  ⟨Desk.machine, fun machine d => { d with machine }⟩

/-- Takes down a notification. -/
def takeDown : React Unit Desk := fun _ _ sig w =>
  match sig with
  | .notification _ n => w.modifyHost fun d => { d with notifications := d.notifications ++ [n] }
  | _ => w

/-- Invokes a command; there are no other analyzers. -/
def invoke (launch : Launcher) (ticket number : Nat) (a : Analyzer) (s : Snapshot) (w : State) :
    State :=
  match a.source with
  | .command c baseDir => w.invokeCommand launch deskMachine ticket number c baseDir s
  | .host _ => w.answer ticket number (.ok none)

/-- The host of a check. -/
def host (launch : Launcher) : Host Unit Desk := ⟨takeDown, invoke launch⟩

/-- The engine of a check. -/
def theEngine : Nat := 0

/-- A file as a document, with its extension, if it is text, as its tag. -/
def documentOf (p : Path) (text : String) : Document :=
  let extension := p.extension?.filter Text.isUtf8
  .new (some p) text (extension.map Text.decodeLossy).toList

/-! ## What happens next -/

/-- What may happen next. -/
inductive Turn where
  /-- A piece of work that waits is carried out. -/
  | work (t : Task)
  /-- A command that runs ends. -/
  | ending (p : Process)

/-- All that may happen next. -/
def turns (w : State) : List Turn :=
  w.agenda.map .work ++ w.host.machine.running.map .ending

/-- What happens in a turn. -/
def Turn.take (h : Host Unit Desk) (w : State) : Turn → State
  | .work t => World.perform h t (w.dismiss t)
  | .ending p => w.conclude deskMachine p

/-- What decides about all that may happen next, by its number. -/
abbrev Order := State → Nat

/-- Work is carried out in the order in which it was asked for. Where none waits the command ends
that is due first. -/
def soonest : Order := fun w =>
  if w.agenda.isEmpty then
    match w.host.machine.next? with
    | none => 0
    | some p => w.host.machine.running.findIdx fun q => q.ticket == p.ticket && q.number == p.number
  else 0

/-- What happens next, if anything may. -/
def next? (o : Order) (w : State) : Option Turn := (turns w)[o w % (turns w).length]?

/-- What may happen happens in some order, until nothing is left; at most so many turns. -/
def settle (h : Host Unit Desk) (o : Order) : Nat → State → State
  | 0, w => w
  | n + 1, w =>
    match next? o w with
    | none => w
    | some t => settle h o n (t.take h w)

/-- The most turns that are waited for in one go. -/
def turnLimit : Nat := World.workLimit * World.patience

/-! ## Files -/

/-- Checks one file, or says why it cannot be checked. -/
def checkFile (h : Host Unit Desk) (o : Order) (p : Path) (w : State) :
    State × Except String Unit :=
  let place := w.host.machine.workplace
  match place.files.readText place.directory p with
  | .error e => (w, .error e.text)
  | .ok text =>
    let (w, d) := w.addDocument (documentOf p text)
    match w.openSession h.emit true theEngine d with
    | (w, .error e) => (w, .error e.text)
    | (w, .ok s) =>
      let w := (w.requestRun s .onSave).1
      let w := (w.requestRun s .onChange).1
      (settle h o turnLimit w, .ok ())

/-- Checks files one after the other: how many were checked, and which could not be. -/
def checkFiles (h : Host Unit Desk) (o : Order) :
    List Path → State → State × Nat × List (Path × String)
  | [], w => (w, 0, [])
  | p :: rest, w =>
    match checkFile h o p w with
    | (w, .error reason) =>
      let (w, n, failures) := checkFiles h o rest w
      (w, n, (p, reason) :: failures)
    | (w, .ok ()) =>
      let (w, n, failures) := checkFiles h o rest w
      (w, n + 1, failures)

/-- The state in which a check starts, unless the configuration cannot be applied. -/
def initialState (launch : Launcher) (w : Workplace) (c : Config) : Except HubError State :=
  let state := ((World.new ⟨.new w, []⟩ : State).addEngine .default).1
  match state.applyConfig (host launch).emit theEngine c with
  | (_, .error e) => .error e
  | (state, .ok ()) =>
    .ok (state.modifyEngine theEngine fun e =>
      { e with notified := (e.notified.subscribe (.host ())).1 })

/-- Checks files under a configuration. -/
def report (launch : Launcher) (o : Order) (w : Workplace) (c : Config) (files : List Path) :
    Except HubError Report :=
  match initialState launch w c with
  | .error e => .error e
  | .ok state =>
    let (state, checked, failures) := checkFiles (host launch) o files state
    .ok ⟨checked, failures,
      (state.messages theEngine).filter fun d => (state.engine theEngine).config.shows d.severity,
      state.host.notifications⟩

/-- The configuration of a check: of the file that is named, else of the directory in which one
works, else the default. -/
def configuration (w : Workplace) (named : Option Path) : Except HubError Config :=
  match named.or (Config.discover w.files w.directory (.ofText ".")) with
  | some p => Config.ofFile w.files w.directory p
  | none => .ok .default

/-- What a program run leaves behind, and what stopped it if it did not come to its end. -/
structure Ending where
  code : Nat
  output : String
  complaints : String
  stop : Option Stop
  deriving DecidableEq, Repr

/-- The version of the program. -/
def version : String := "0.1.0"

/-- The ending of a run that could not begin. -/
def fatal : Ending := ⟨2, "", "", none⟩

/-- Checks files as a command line asks. -/
def run (launch : Launcher) (o : Order) (w : Workplace) (named : Option Path) (files : List Path)
    (format : ReportFormat) : Ending :=
  match configuration w named with
  | .error _ => fatal
  | .ok c =>
    match report launch o w c files with
    | .error _ => fatal
    | .ok r =>
      let shown := r.output format
      ⟨r.exitCode format, Report.joinLines shown.lines, r.complaints, shown.stop⟩

/-- Does what a command line asks; an editor that says nothing gets no answer. -/
def ending (launch : Launcher) (w : Workplace) (args : List String) : Ending :=
  match CommandLine.parse args with
  | .error .malformed => fatal
  | .error .help => ⟨0, "", "", none⟩
  | .error .version => ⟨0, "lintdeck " ++ version ++ "\n", "", none⟩
  | .ok line =>
    match line.request with
    | .check files format => run launch soonest w line.config files format
    | .serve => ⟨0, "", "", none⟩

end LintHub.Check
