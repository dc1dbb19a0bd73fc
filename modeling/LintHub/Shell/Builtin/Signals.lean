import LintHub.Shell.Builtin.Variables

set_option autoImplicit false

/-!
# Commands about signals and processes

What is carried out at a signal is set, signals are sent, and processes in the background are waited
for. Time passes while the shell waits.
-/

namespace LintHub.Shell

namespace Builtin

/-- The name of a signal without what all names start with. -/
def shortName (name : String) : String := String.ofList (name.toList.drop 3)

/-- The number of a signal, by its number or name. -/
def signal? (arg : Bytes) : Option Nat :=
  let s := textOf arg
  match natural? arg with
  | some n => if n < 65 then some n else none
  | none =>
    if s == "EXIT" then some 0
    else (ExitStatus.signalNames.find? fun x => shortName x.2 == s.toUpper).map (·.1)

/-- The name of a signal in a list of traps. -/
def signalText (n : Nat) : String :=
  if n == 0 then "EXIT"
  else ((ExitStatus.signalNames.find? (·.1 == n)).map fun x => shortName x.2).getD (toString n)

/-- Sets or takes back what is carried out at signals. -/
def setTraps (action : Option Bytes) : List Bytes → State → State
  | [], s => s.finish 0
  | arg :: rest, s =>
    match signal? arg with
    | none => (s.warn ("trap: " ++ textOf arg ++ ": bad trap\n")).finish 1
    | some n =>
      let others := s.traps.filter (·.1 != n)
      setTraps action rest
        { s with traps := match action with
            | some a => (others ++ [(n, a)]).mergeSort fun x y => x.1 ≤ y.1
            | none => others }

/-- Says or sets what is carried out at signals. -/
def trap (args : List Bytes) : State → State :=
  withOptions [] [] args fun _ args s =>
    match args with
    | [] =>
      (s.print (s.traps.flatMap fun t => bytesOf "trap -- " ++ singleQuoted t.2 ++
        bytesOf (" " ++ signalText t.1 ++ "\n"))).finish 0
    | [arg] => setTraps none [arg] s
    | action :: signals =>
      if (natural? action).isSome then setTraps none args s
      else setTraps (if action == [45] then none else some action) signals s

/-- The signals that change nothing unless they are trapped. -/
def harmlessSignals : List Nat := [0, 17, 18, 23, 28]

/-- The signals at which a process stops, and never goes on. -/
def stoppingSignals : List Nat := [19, 20, 21, 22]

/-- Ends a process in the background. -/
def endJob (signal number : Nat) (s : State) : State :=
  { s with jobs := s.jobs.map fun j =>
      if j.number == number && s.elapsed < j.ends && !harmlessSignals.contains signal then
        { j with status := 128 + signal, ends := s.elapsed }
      else j }

/-- How `kill` is called. -/
def killUsage : String :=
  "Usage: kill [-s sigspec | -signum | -sigspec] [pid | job]... or\nkill -l [exitstatus]"

/-- Tells which signal a number or status means. -/
def nameSignal (arg : Bytes) (s : State) : State :=
  match number? arg with
  | none => s.complain (State.illegalNumber arg) 2
  | some n =>
    let n := if 128 < n then n - 128 else n
    if n == 0 || 64 < n then
      s.complain ("invalid signal number or exit status: " ++ textOf arg) 2
    else (s.printText (signalText n ++ "\n")).finish 0

/-- The signal and the targets that the arguments of `kill` name, or what is wrong with them. -/
def killTargets (args : List Bytes) : Except String (Nat × List Bytes) :=
  match args with
  | (45 :: name) :: rest =>
    match signal? name with
    | some n => .ok (n, rest)
    | none =>
      match takeOptions ['l'] ['s'] (optionBound args) args with
      | .error e => .error e
      | .ok (options, rest) =>
        match options.getLast? with
        | none => .ok (15, rest)
        | some (_, value) =>
          match signal? value with
          | some n => .ok (n, rest)
          | none => .error ("invalid signal number or name: " ++ textOf value)
  | args => .ok (15, args)

/-- Sends a signal to one process. The answer is the signal that the shell sent to itself. -/
def sendSignal (signal : Nat) (target : Bytes) (x : State × Option Nat) : State × Option Nat :=
  let s := x.1
  let digits := if target.head? == some 45 then target.drop 1 else target
  match number? digits with
  | none =>
    if target.head? == some 37 then
      (s.complain ("No such job: " ++ textOf target) 2, x.2)
    else (s.complain (State.illegalNumber digits) 2, x.2)
  | some n =>
    if target.head? != some 45 && n == processNumber then (s, some signal)
    else if target.head? != some 45 && s.jobs.any (·.number == n) then (endJob signal n s, x.2)
    else (s.complain "No such process\n" 1, x.2)

/-- Sends a signal to processes. The answer is the signal that the shell sent to itself. -/
def kill (args : List Bytes) (s : State) : State × Option Nat :=
  match args with
  | [] => (s.complain killUsage 2, none)
  | [45, 108] :: [] =>
    let names := (List.range 65).filter fun n =>
      n == 0 || ExitStatus.signalNames.any (·.1 == n)
    let text (n : Nat) : String := if n == 0 then "0\n" else signalText n ++ "\n"
    ((s.printText (String.join (names.map text))).finish 0, none)
  | [45, 108] :: arg :: _ => (nameSignal arg s, none)
  | args =>
    match killTargets args with
    | .error e => (s.complain e 2, none)
    | .ok (_, []) => (s.complain killUsage 2, none)
    | .ok (n, targets) =>
      targets.foldl (fun x target => if x.1.status == 2 then x else sendSignal n target x)
        (s.finish 0, none)

/-- Waits for processes in the background. -/
def wait (args : List Bytes) (s : State) : State :=
  match args with
  | [] => { s.finish 0 with elapsed := s.jobs.foldl (fun t j => max t j.ends) s.elapsed }
  | args =>
    args.foldl (fun s arg =>
      if s.isOver then s
      else
        match number? arg with
        | none =>
          if arg.head? == some 37 then s.abort ("No such job: " ++ textOf arg)
          else s.abort (State.illegalNumber arg)
        | some n =>
          match s.jobs.find? (·.number == n) with
          | some j => { s.finish j.status with elapsed := max s.elapsed j.ends }
          | none => s.finish 127) s

end Builtin

end LintHub.Shell
