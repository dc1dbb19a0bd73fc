import LintHub.Server.Conversation

set_option autoImplicit false

/-!
# The course of a server

One order in which a server's steps are taken: messages as they come; then runs, batches, the ends
of commands and the settling of edits, until nothing is left. What can be done at once is done
before time passes.
-/

namespace LintHub.Server

/-- Messages are handled one after the other. -/
def handleAll (emit : Emit Tap Desk) : List Call → State → State × List Response
  | [], w => (w, [])
  | c :: rest, w =>
    let (w, r) := handle emit c w
    let (w, rs) := handleAll emit rest w
    (w, r :: rs)

/-- The earlier of two timers. -/
def earlierTimer (s t : Timer) : Timer := if t.due < s.due then t else s

/-- The timer that fires first; of several the one that was set first. -/
def nextTimer? (w : State) : Option Timer :=
  match w.host.timers with
  | [] => none
  | t :: rest => some (rest.foldl earlierTimer t)

/-- A timer fires. -/
def fire (emit : Emit Tap Desk) (t : Timer) (w : State) : State :=
  settle emit t (w.modifyHost fun d =>
    { d with machine := d.machine.advance t.due, timers := d.timers.erase t })

/-- What time brings next: the end of a command, or a timer. -/
def passTime (h : Host Tap Desk) (w : State) : Option State :=
  match w.host.machine.next?, nextTimer? w with
  | none, none => none
  | some _, none => some (w.endProcess deskMachine)
  | none, some t => some (fire h.emit t w)
  | some p, some t =>
    if p.due ≤ t.due then some (w.endProcess deskMachine) else some (fire h.emit t w)

/-- The next thing that happens when nobody speaks. -/
def next (h : Host Tap Desk) (w : State) : Option State :=
  if !w.agenda.isEmpty then some (w.quiesce h)
  else if !w.host.queue.isEmpty then some (publishBatch w)
  else passTime h w

/-- Everything that happens when nobody speaks, at most so much of it. -/
def settleDown (h : Host Tap Desk) : Nat → State → State
  | 0, w => w
  | n + 1, w =>
    match next h w with
    | none => w
    | some w => settleDown h n w

/-- How many things happen at most before someone speaks again. -/
def patience : Nat := 100000

/-- Messages come, and everything settles that follows from them. What was told before is
forgotten. -/
def converse (h : Host Tap Desk) (calls : List Call) (w : State) : State × List Response :=
  let (w, responses) := handleAll h.emit calls (w.modifyHost fun d => { d with told := [] })
  (settleDown h patience w, responses)

/-- Changes files behind the server's back. -/
def modifyFiles (f : Files → Files) (w : State) : State :=
  w.modifyHost fun d =>
    let place := d.machine.workplace
    { d with machine := { d.machine with workplace := { place with files := f place.files } } }

end LintHub.Server
