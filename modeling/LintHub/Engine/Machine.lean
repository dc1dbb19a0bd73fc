import LintHub.Command
import LintHub.Engine.Schedule

set_option autoImplicit false

/-!
# Commands that are running

A machine runs the commands of analyzers: each takes a while, and its answer arrives when it is due.
A command that cannot be started answers at once.
-/

namespace LintHub

/-- A command that is running, with the answer that it will give. -/
structure Process where
  ticket : Nat
  number : Nat
  answer : Answer
  /-- When the answer arrives. -/
  due : Nat

/-- Where commands run. -/
structure Machine where
  workplace : Workplace
  /-- Milliseconds since the start. -/
  now : Nat
  running : List Process

namespace Machine

/-- A machine on which nothing runs. -/
def new (w : Workplace) : Machine := ⟨w, 0, []⟩

/-- How long it takes at least to run a program, in milliseconds. -/
def startupTime : Nat := 3

/-- Starts a command for an invocation; the answer of one that cannot be started is there at
once. -/
def start (launch : Launcher) (ticket number : Nat) (c : CommandConfig) (baseDir : Option Path)
    (s : Snapshot) (m : Machine) : Machine × Option Answer :=
  match launch m.workplace (c.invocation baseDir s) with
  | (files, .error e) =>
    ({ m with workplace := { m.workplace with files } }, some (c.answerOf (.error e)).1)
  | (files, .ok r) =>
    let (answer, elapsed) := c.answerOf (.ok r)
    ({ m with
        workplace := { m.workplace with files }
        running := m.running ++ [⟨ticket, number, answer, m.now + startupTime + elapsed⟩] }, none)

/-- The earlier of two processes. -/
def earlier (p q : Process) : Process := if q.due < p.due then q else p

/-- The process whose answer arrives first; of several the one that was started first. -/
def next? (m : Machine) : Option Process :=
  match m.running with
  | [] => none
  | p :: rest => some (rest.foldl earlier p)

/-- Time passes up to a moment. -/
def advance (moment : Nat) (m : Machine) : Machine := { m with now := max m.now moment }

/-- The machine at the moment at which a process ends. -/
def conclude (p : Process) (m : Machine) : Machine :=
  { m with
    now := max m.now p.due
    running := m.running.filter fun q => !(q.ticket == p.ticket && q.number == p.number) }

end Machine

/-- A state of a host that has a machine. -/
structure MachineAccess (β : Type) where
  get : β → Machine
  set : Machine → β → β

namespace World

variable {R β : Type}

/-- Invokes a command on the machine of the host. -/
def invokeCommand (launch : Launcher) (m : MachineAccess β) (ticket number : Nat)
    (c : CommandConfig) (baseDir : Option Path) (s : Snapshot) (w : World R β) : World R β :=
  let (machine, answer) := (m.get w.host).start launch ticket number c baseDir s
  let w := w.modifyHost (m.set machine)
  match answer with
  | some a => w.answer ticket number a
  | none => w

/-- A command ends and gives its answer. -/
def conclude (m : MachineAccess β) (p : Process) (w : World R β) : World R β :=
  (w.modifyHost (m.set ((m.get w.host).conclude p))).answer p.ticket p.number p.answer

/-- The next command to end gives its answer. -/
def endProcess (m : MachineAccess β) (w : World R β) : World R β :=
  match (m.get w.host).next? with
  | none => w
  | some p => w.conclude m p

/-- Ends commands one after the other, with all that follows from it, until something holds; at most
so many. -/
def awaitProcesses (h : Host R β) (m : MachineAccess β) (done : World R β → Bool) :
    Nat → World R β → World R β
  | 0, w => w
  | n + 1, w =>
    if done w || (m.get w.host).running.isEmpty then w
    else awaitProcesses h m done n ((w.endProcess m).quiesce h)

/-- The most commands that are waited for in one go. -/
def patience : Nat := 100000

/-- Ends every command, with all that follows from it. -/
def settleAll (h : Host R β) (m : MachineAccess β) (w : World R β) : World R β :=
  awaitProcesses h m (fun _ => false) patience (w.quiesce h)

/-- The outcome of a ticket. -/
def outcome? (w : World R β) (ticket : Nat) : Option RunOutcome :=
  (w.outcomes.find? (·.1 == ticket)).map (·.2)

end World

end LintHub
