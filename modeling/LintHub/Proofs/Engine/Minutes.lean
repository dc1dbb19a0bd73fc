import LintHub.Proofs.Engine.Hosts

set_option autoImplicit false

/-!
# The minutes of sessions

What sessions make of the events of their documents: which event reaches which session, and what the
session goes by then, the runs that it asks for because of it, and the signals that are emitted, in
the order in which all this happens. The minutes are kept beside the state of the host by carrying
out the same steps on a `Minuted` host (`secretary`).
-/

namespace LintHub

variable {R β : Type}

/-- An event of its document as it reaches a session. -/
structure Reception where
  event : DocumentEvent
  /-- The session is not over. -/
  live : Bool
  /-- The engine of the session is alive. -/
  alive : Bool
  /-- The configuration of the engine that is in force. -/
  config : Config
  deriving DecidableEq

/-- What is taken down. -/
inductive Minute where
  /-- An event reaches a session. -/
  | receives (s : Nat) (r : Reception)
  /-- A session asks for a run because of an event that has reached it. -/
  | asks (s : Nat) (trigger : Trigger)
  | emits (sig : Signal)
  deriving DecidableEq

/-- The state of a host with the minutes beside it, the latest last. -/
structure Minuted (β : Type) where
  own : β
  minutes : List Minute

/-- A change of the host's own state. -/
def Minuted.lift (f : β → β) (h : Minuted β) : Minuted β := { h with own := f h.own }

namespace World

/-- The world of a host that keeps the minutes, without them. -/
def unminuted (w : World R (Minuted β)) : World R β := w.mapHost Minuted.own

/-- A world with nothing in the minutes yet. -/
def minuted (w : World R β) : World R (Minuted β) := w.mapHost fun h => ⟨h, []⟩

/-- Takes something down. -/
def minute (x : Minute) (w : World R (Minuted β)) : World R (Minuted β) :=
  w.modifyHost fun h => { h with minutes := h.minutes ++ [x] }

/-- An event that reaches a session, with what the session goes by at that moment. -/
def reception (s : Nat) (e : DocumentEvent) (w : World R β) : Reception :=
  ⟨e, !(w.session s).destroyed, w.engineAlive (w.session s).engine,
    (w.engine (w.session s).engine).config⟩

/-- A session asks for a run, which is taken down. -/
def askMinuted (s : Nat) (trigger : Trigger) (w : World R (Minuted β)) : World R (Minuted β) :=
  ((w.minute (.asks s trigger)).requestRun s trigger).1

/-- What a session makes of an event of its document. That the event reaches it is taken down
first. -/
def followMinuted (emit : Emit R (Minuted β)) (s : Nat) (e : DocumentEvent)
    (w : World R (Minuted β)) : World R (Minuted β) :=
  followWith askMinuted emit s e (w.minute (.receives s (w.reception s e)))

end World

theorem World.unminuted_followMinuted {emit : Emit R (Minuted β)} {emit' : Emit R β}
    (he : Agree Minuted.own emit emit') (s : Nat) (e : DocumentEvent) (w : World R (Minuted β)) :
    (w.followMinuted emit s e).unminuted = w.unminuted.followDocument emit' s e := by
  have asked (s : Nat) (trigger : Trigger) (w : World R (Minuted β)) :
      (w.askMinuted s trigger).mapHost Minuted.own =
        ((w.mapHost Minuted.own).requestRun s trigger).1 := rfl
  exact mapHost_followWith he asked s e _

/-- Keeps the minutes. -/
def secretary : Layer R β (Minuted β) where
  own := Minuted.own
  lift := Minuted.lift
  own_lift _ _ := rfl
  emitted sig _ := World.minute (.emits sig)
  tasks emit := { Tasks.plain emit with follow := World.followMinuted emit }
  agree he :=
    { Tasks.agree_plain he with follow := World.unminuted_followMinuted he }

/-- The minutes of a course. -/
def minutes (k : Conduct R β) (steps : List (Step R β)) (w : World R β) : List Minute :=
  (secretary.course k steps w.minuted).host.minutes

/-- No step takes anything down but what comes of the signals that it emits. -/
theorem Step.perform_minuted (emit : Emit R (Minuted β)) (t : Step R β)
    (w : World R (Minuted β)) :
    secretary.perform emit t w = (t.lift Minuted.lift).perform emit w :=
  congrFun ((t.lift Minuted.lift).performWith_congr rfl rfl rfl emit) w

theorem unminuted_course (k : Conduct R β) (steps : List (Step R β)) (w : World R (Minuted β)) :
    (secretary.course k steps w).unminuted = course k steps w.unminuted :=
  secretary.own_course k steps w

/-! ## What the minutes say of a session -/

/-- The event, if it reaches a session that is not over. -/
def Minute.heeded? (s : Nat) : Minute → Option Reception
  | .receives t r => if t = s ∧ r.live = true then some r else none
  | _ => none

/-- The kind of run, if a session asks for one. -/
def Minute.asked? (s : Nat) : Minute → Option Trigger
  | .asks t trigger => if t = s then some trigger else none
  | _ => none

/-- The event, if a session emits one. -/
def Minute.told? (s : Nat) : Minute → Option SessionEvent
  | .emits (.session t e) => if t = s then some e else none
  | _ => none

/-- The events of its document that reach a session while it is not over. -/
def heeded (s : Nat) (l : List Minute) : List Reception := l.filterMap (Minute.heeded? s)

/-- The runs that a session asks for because of them. -/
def asked (s : Nat) (l : List Minute) : List Trigger := l.filterMap (Minute.asked? s)

/-- The events that a session emits. -/
def told (s : Nat) (l : List Minute) : List SessionEvent := l.filterMap (Minute.told? s)

end LintHub
