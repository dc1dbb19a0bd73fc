import LintHub.Engine.Delivery

set_option autoImplicit false

/-!
# Carrying out the work that waits

Work is carried out in the order in which it was asked for, until none is left. This is one order
among all those in which runs may start and answers may arrive; each piece of work is one of the
steps of `World`.
-/

namespace LintHub

variable {R β : Type}

/-- What a host contributes: how its subscribers act, and how it invokes an analyzer. -/
structure Host (R β : Type) where
  react : React R β
  /-- Invokes an analyzer on a snapshot: the answer arrives now or later. -/
  invoke : Nat → Nat → Analyzer → Snapshot → World R β → World R β

/-- Delivers a signal among the subscribers of a host. -/
def Host.emit (h : Host R β) : Emit R β := deliverAll h.react

namespace World

/-- Takes work off the agenda. -/
def dismiss (t : Task) (w : World R β) : World R β := { w with agenda := w.agenda.erase t }

/-- Carries out one piece of work. -/
def perform (h : Host R β) (t : Task) (w : World R β) : World R β :=
  match t with
  | .start ticket s trigger => w.startRun ticket s trigger
  | .invoke ticket number =>
    match w.invocation? ticket number with
    | none => w
    | some (r, a) => h.invoke ticket number a r.snapshot w
  | .collect ticket => w.collect h.emit ticket

/-- Carries out the work that waits, at most `fuel` pieces of it. -/
def performAll (h : Host R β) : Nat → World R β → World R β
  | 0, w => w
  | fuel + 1, w =>
    match w.agenda with
    | [] => w
    | t :: rest => performAll h fuel (perform h t { w with agenda := rest })

/-- How many pieces of work are carried out in one go at most. -/
def workLimit : Nat := 100000

/-- Carries out all the work that waits. -/
def quiesce (h : Host R β) (w : World R β) : World R β := performAll h workLimit w

end World

end LintHub
