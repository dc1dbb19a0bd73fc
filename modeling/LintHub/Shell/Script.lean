import LintHub.Shell.Builtin.Signals
import LintHub.Shell.Expansion

set_option autoImplicit false

/-!
# Running a script

The lines of a script are carried out one after the other, by a `Runner` for commands. What a shell
does at its end and at signals is a script, too, and so is a part of a shell of which only the
effects outside it remain.
-/

namespace LintHub.Shell

/-- Carries out a command, whose status may be one that is tested. -/
abbrev Runner := Bool → Command → State → State

namespace Run

/-- Carries out the lines of a script that are left. -/
def lines (r : Runner) (tested : Bool) : Nat → Source → State → State
  | 0, _, s => s
  | fuel + 1, source, s =>
    match { source with documents := s.documents }.nextLine with
    | .error e => ({ s with line := e.line }).abort e.fault.text
    | .ok (none, source) => { s with documents := source.documents }
    | .ok (some c, source) =>
      let s := r tested c { s with documents := source.documents, scriptLine := source.line }
      if s.isOver then s else lines r tested fuel source s

/-- Carries out a script. -/
def script (r : Runner) (tested : Bool) (text : Bytes) (s : State) : State :=
  let cs := (textOf text).toList
  lines r tested (cs.length + 1) (.ofScript cs s.documents) s

/-- The end of a shell: what was asked for at its end is carried out. -/
def endShell (r : Runner) (s : State) : State :=
  if s.killed.isSome then s
  else
    match s.traps.find? (·.1 == 0) with
    | none => s
    | some (_, action) =>
      let t := script r false action
        { s with
          traps := s.traps.filter (·.1 != 0)
          escape := none
          loopDepth := 0
          statusBefore := some s.status
          commandName := none }
      if t.escape == some .leaveShell || t.escape == some .failure then t else t.finish s.status

/-- The shell gets a signal. -/
def receive (r : Runner) (signal : Nat) (s : State) : State :=
  match s.traps.find? (·.1 == signal) with
  | some (_, action) =>
    if signal == 0 || action.isEmpty then s
    else
      let before := s.statusBefore.or (some s.status)
      let t := script r false action { s with commandName := none, statusBefore := before }
      if t.isOver then t else { t.finish s.status with statusBefore := s.statusBefore }
  | none =>
    if Builtin.harmlessSignals.contains signal then s
    else if Builtin.stoppingSignals.contains signal then
      { s with killed := some 9, elapsed := s.elapsed + endlessTime }
    else { s with killed := some signal }

/-- The shell gets the signals that its parts sent to it, as soon as it has not to wait for them. -/
def receiveSent (r : Runner) (s : State) : State :=
  if s.isPart then s
  else
    s.sent.foldl (fun s signal => if s.isOver then s else receive r signal s) { s with sent := [] }

/-- Carries something out in a shell of its own, of which only the effects outside it remain. -/
def inSubshell (r : Runner) (f : State → State) (s : State) : State :=
  let traps := s.traps.filter (·.2.isEmpty)
  let t := endShell r (f { s with traps, jobs := [], isPart := true })
  receiveSent r { s with
    files := t.files
    inputs := t.inputs
    channels := t.channels
    elapsed := t.elapsed
    held := t.held
    killed := t.killed
    sent := t.sent
    status := t.status % 256 }

/-- The bytes without newlines at their end. -/
def trimNewlines (bs : Bytes) : Bytes := (bs.reverse.dropWhile (· == 10)).reverse

/-- What a script writes, without newlines at the end. It is over when nobody holds its output. -/
def outputOf (r : Runner) : OutputOf := fun c s =>
  let n := s.channels.length
  let t := inSubshell r (fun s => r false c (s.connect 1 (some (.channel n))))
    { s with channels := s.channels ++ [[]] }
  ({ t with
      channels := t.channels.take n
      elapsed := if s.held < t.held then max t.elapsed t.held else t.elapsed
      outputStatus := some t.status
      status := s.status },
    trimNewlines (t.written n))

end Run

end LintHub.Shell
