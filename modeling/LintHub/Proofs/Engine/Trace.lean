import LintHub.Proofs.Engine.Hosts

set_option autoImplicit false

/-!
# The trace of a course

Every signal that is emitted in a course and every call of a subscriber, in the order in which they
happen. They are kept beside the state of the host by carrying out the same steps on a `Traced`
host, where a signal is taken down at the moment of its emission with the numbers of those that it
goes to, and a call before the subscriber acts (`tracer`).
-/

namespace LintHub

variable {R β : Type}

/-- What happens on the way of a signal. -/
inductive Occurrence where
  /-- The signal is emitted, to the subscribers of these numbers. -/
  | emitted (sig : Signal) (whom : List Nat)
  /-- The subscriber of a number is called with the signal. -/
  | called (number : Nat) (sig : Signal)
  deriving DecidableEq, Repr

/-- The state of a host with the trace beside it, the latest last. -/
structure Traced (β : Type) where
  own : β
  trace : List Occurrence

/-- A change of the host's own state. -/
def Traced.lift (f : β → β) (h : Traced β) : Traced β := { h with own := f h.own }

namespace World

/-- The world of a host that keeps the trace, without it. -/
def untraced (w : World R (Traced β)) : World R β := w.mapHost Traced.own

/-- A world of which nothing is traced yet. -/
def traced (w : World R β) : World R (Traced β) := w.mapHost fun h => ⟨h, []⟩

/-- Takes down what happens. -/
def trail (x : Occurrence) (w : World R (Traced β)) : World R (Traced β) :=
  w.modifyHost fun h => { h with trace := h.trace ++ [x] }

end World

/-- Keeps the trace. -/
def tracer : Layer R β (Traced β) where
  own := Traced.own
  lift := Traced.lift
  own_lift _ _ := rfl
  emitted sig whom := World.trail (.emitted sig whom)
  called number sig := World.trail (.called number sig)

/-- The trace of a course. -/
def trace (k : Conduct R β) (steps : List (Step R β)) (w : World R β) : List Occurrence :=
  (tracer.course k steps w.traced).host.trace

/-- Keeping a trace changes nothing in a course. -/
theorem untraced_course (k : Conduct R β) (steps : List (Step R β)) (w : World R (Traced β)) :
    (tracer.course k steps w).untraced = course k steps w.untraced :=
  tracer.own_course k steps w

end LintHub
