import LintHub.Engine.Operations

set_option autoImplicit false

/-!
# Delivery of signals

A signal is delivered to everyone who listened to its emitter when the delivery began, one after the
other. A session answers its document's events itself; a subscriber of the host acts as the host
says, and may emit signals of its own while the first is still on its way. How deep deliveries may
nest is bounded.
-/

namespace LintHub

variable {R β : Type}

/-- How a subscriber of the host acts on a signal. -/
abbrev React (R β : Type) := R → Emit R β → Signal → World R β → World R β

/-- One listener receives a signal, given what a session makes of an event of its document. -/
def Listener.receiveWith (follow : Nat → DocumentEvent → World R β → World R β) (react : React R β)
    (emit : Emit R β) (sig : Signal) (w : World R β) : Listener R → World R β
  | .host r => react r emit sig w
  | .session s =>
    match sig with
    | .document _ e => follow s e w
    | _ => w

/-- One listener receives a signal. -/
def Listener.receive (react : React R β) (emit : Emit R β) : Signal → World R β → Listener R →
    World R β :=
  receiveWith (World.followDocument emit) react emit

/-- Delivers a signal; deliveries within deliveries go at most `depth` deep. -/
def deliver (react : React R β) : Nat → Emit R β
  | 0, _, w => w
  | depth + 1, sig, w =>
    -- The listeners are those of this moment: who subscribes meanwhile hears the next signal only.
    (w.listeners sig).foldl (Listener.receive react (deliver react depth) sig) w

/-- How deep deliveries nest at most. -/
def deliveryDepth : Nat := 1000

/-- Delivers a signal. -/
def deliverAll (react : React R β) : Emit R β := deliver react deliveryDepth

end LintHub
