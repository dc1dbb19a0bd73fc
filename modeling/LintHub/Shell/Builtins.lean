import LintHub.Shell.Builtin.Input
import LintHub.Shell.Builtin.Names
import LintHub.Shell.Builtin.Settings
import LintHub.Shell.Builtin.Signals
import LintHub.Shell.Condition
import LintHub.Shell.Format

set_option autoImplicit false

/-!
# The shell's own commands

The commands that change the state of the shell and need no other command for it. Some of them are
special: what is wrong with their arguments ends the shell, and assignments in front of them last.
-/

namespace LintHub.Shell

namespace Builtin

/-- What there is to find out about a file. -/
def look (s : State) (operator : String) (arg : Bytes) : Bool :=
  let node := s.files.lookup s.directory (State.pathOf arg)
  match operator with
  | "-f" => s.files.isFile s.directory (State.pathOf arg)
  | "-d" | "-x" => s.files.isDirectory s.directory (State.pathOf arg)
  | "-e" | "-r" | "-w" | "-O" | "-G" => node.isOk
  | "-c" => match node with
    | .ok .sink => true
    | _ => false
  | "-s" => match node with
    | .ok .directory => true
    | .ok (.file bs) => !bs.isEmpty
    | _ => false
  | _ => false

/-- Decides a condition. -/
def test (bracket : Bool) (args : List Bytes) (s : State) : State :=
  if bracket && (args.getLast?.bind List.head?) != some 93 then s.complain "missing ]" 2
  else
    let args := if bracket then args.dropLast else args
    match Condition.holds (look s) (args.length + 1) args with
    | .ok b => s.finish (if b then 0 else 1)
    | .error f => s.complain f.text 2

/-- Writes by a format. -/
def print (args : List Bytes) : State → State :=
  withOptions [] [] args fun _ args s =>
    match args with
    | [] => s.complain "usage: printf format [arg ...]" 2
    | f :: rest =>
      let p := format (rest.length + 1) f rest
      ((p.complaints.foldl (fun s text => s.say text) s).print p.output).finish p.status

/-- Says or sets which rights new files do not get. -/
def mask (args : List Bytes) (s : State) : State :=
  match args with
  | [] => (s.printText "0022\n").finish 0
  | _ => s.finish 0

/-- Carries out a command of the shell that needs no other; nothing for any other name. -/
def run? (name : String) (args : List Bytes) (s : State) : Option State :=
  match name with
  | ":" | "true" | "alias" | "hash" | "jobs" | "ulimit" | "unalias" => some (s.finish 0)
  | "bg" | "fg" => some (s.complain "No current job" 2)
  | "times" =>
    let line := "0m0.000000s 0m0.000000s\n"
    some ((s.printText (line ++ line)).finish 0)
  | "false" => some (s.finish 1)
  | "[" => some (test true args s)
  | "test" => some (test false args s)
  | "break" => some (leaveLoops .leaveLoop args s)
  | "continue" => some (leaveLoops .nextRound args s)
  | "return" => some (leaveFunction args s)
  | "exit" => some (leaveShell args s)
  | "cd" | "chdir" => some (changeDirectory args s)
  | "pwd" => some (sayDirectory args s)
  | "echo" => some ((s.print (echo args)).finish 0)
  | "printf" => some (print args s)
  | "export" => some (exportNames args s)
  | "readonly" => some (makeReadOnly args s)
  | "local" => some (keepLocal args s)
  | "unset" => some (unset args s)
  | "set" => some (set args s)
  | "shift" => some (shift args s)
  | "read" => some (read args s)
  | "getopts" => some (getOption args s)
  | "trap" => some (trap args s)
  | "wait" => some (wait args s)
  | "type" => some (args.foldl (fun s arg => describe arg s) (s.finish 0))
  | "umask" => some (mask args s)
  | _ => none

end Builtin

end LintHub.Shell
